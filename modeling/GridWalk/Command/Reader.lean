import GridWalk.Command.Rules

/-! # Readers

A reader reads texts under fixed options and remembers what was wrong with the last text it read. What
is handed to it may be no text at all, which it refuses to read. -/

namespace GridWalk.Command

/-- What a reading notes beside its program. -/
structure Flags where
  missingComma : Bool := false
  fault : Option Fault := none
deriving DecidableEq, Repr

/-- The flags of a reading, where commas may be optional. -/
def Reading.flags (r : Reading) (requireComma : Bool) : Flags where
  missingComma := requireComma && r.missingComma
  fault := r.fault

/-- Why a reader reads nothing: what it was handed is no text, or holds loops nested too deeply. -/
inductive ReadError
  | notText
  | tooDeep
deriving DecidableEq, Repr

/-- A reader with its options, and what it noted of the last text. -/
structure Reader where
  options : Options := {}
  last : Flags := {}
deriving DecidableEq, Repr

namespace Reader

/-- Reads a text and remembers its flags. -/
def read (r : Reader) : Option String → Except ReadError Program × Reader
  | none => (.error .notText, r)
  | some text =>
    let reading := Command.read text
    if maxDepth < reading.depth then (.error .tooDeep, r)
    else (.ok reading.terms, { r with last := reading.flags r.options.requireComma })

/-- The moves that a text makes. -/
def moves (r : Reader) (text : Option String) : Except ReadError (List Move) × Reader :=
  ((r.read text).1.map Program.unroll, (r.read text).2)

/-- Judges a text, which reads it first. -/
def validate (r : Reader) (text : Option String) : Option Rejection × Reader :=
  (match text with | none => some .unreadable | some t => r.options.validate t, (r.read text).2)

end Reader
end GridWalk.Command
