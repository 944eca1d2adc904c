import GridWalk.Json.Basic
import GridWalk.Number.Reading

/-! # Records

A record tells how a visit to a level went. It is written as a JSON object, and read from one whose
values need not have the exact types: numbers may be given by texts, flags by any value. -/

namespace GridWalk

/-- What came of an attempt at a level. -/
structure Record where
  level : Int
  commandsUsed : Int
  timeTaken : Int
  energized : Bool
  success : Bool
deriving DecidableEq, Repr

namespace Record

/-- Whether a record is better than another: fewer commands, or as many in less time. -/
def beats (a b : Record) : Bool :=
  if a.commandsUsed ≠ b.commandsUsed then a.commandsUsed < b.commandsUsed else a.timeTaken < b.timeTaken

/-- The record as an object. -/
def json (r : Record) : Json := .object [
  ("level", .int r.level), ("commandsUsed", .int r.commandsUsed), ("timeTaken", .int r.timeTaken),
  ("energized", .bool r.energized), ("success", .bool r.success)]

/-- Why a value is no record. -/
inductive FormatError
  | missing (key : String)
  | wrongType
  | number (error : NumberError)
deriving DecidableEq, Repr

/-- The text of an error. -/
def FormatError.message : FormatError → String
  | .missing key => Text.quoted key
  | .wrongType => "a value of the wrong type"
  | .number error => error.message

/-- The whole number that a value stands for. -/
def intOf : Json → Except FormatError Int
  | .bool b => .ok (if b then 1 else 0)
  | .number n => n.truncate.mapError .number
  | .text s => (readInt s).mapError .number
  | _ => .error .wrongType

/-- The value of a key that has to be there. -/
def required (data : Json) (key : String) : Except FormatError Json :=
  match data.field? key with
  | some v => .ok v
  | none => .error (.missing key)

/-- The record that a value describes. -/
def ofJson (data : Json) : Except FormatError Record :=
  match data with
  | .object _ => do
    let level ← intOf (← required data "level")
    let commandsUsed ← intOf ((data.field? "commandsUsed").getD (.int 0))
    let timeTaken ← intOf ((data.field? "timeTaken").getD (.int 0))
    let energized := ((data.field? "energized").getD (.bool false)).isTruthy
    let success := (← required data "success").isTruthy
    return { level, commandsUsed, timeTaken, energized, success }
  | _ => .error .wrongType

end Record
end GridWalk
