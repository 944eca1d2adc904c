import GridWalk.Visit.Actions

/-! # Desks

A desk is where visits are made without a window: events are printed line by line, records go to a
recorder, and there is no clock. -/

namespace GridWalk

/-- A place to work at: what is printed and noted there, the recorder, and the files. -/
structure Desk where
  /-- The texts printed so far, each on lines of its own. -/
  out : Array String := #[]
  notes : Array Journal.Entry := #[]
  recorder : Option Recorder := none
  files : Files := {}
  /-- Whether unit steps are printed. -/
  showsMoves : Bool := true

namespace Desk

/-- Prints a text on lines of its own. -/
def print (text : String) (d : Desk) : Desk := { d with out := d.out.push text }

/-- Makes an entry in the journal. -/
def note (entry : Journal.Entry) (d : Desk) : Desk := { d with notes := d.notes.push entry }

/-- Makes entries one after the other. -/
def noteAll (entries : List Journal.Entry) (d : Desk) : Desk := entries.foldl (fun d e => d.note e) d

/-- Prints an event. -/
def display (event : Walk.Event) (d : Desk) : Desk :=
  (event.printed d.showsMoves).foldl (fun d line => d.print line) d

/-- Hands a record to the recorder. -/
def record (r : Record) (d : Desk) : Except RecorderError Unit × Desk :=
  match d.recorder with
  | none => (.ok (), d)
  | some recorder =>
    let (result, recorder, files) := recorder.record r d.files
    let d := { d with recorder := some recorder, files }
    match result with
    | .ok _ => (.ok (), d.noteAll (recorder.notes r))
    | .error error => (.error error, d)

/-- The records kept, where the recorder keeps any. -/
def ledger? (d : Desk) : Option Ledger :=
  match d.recorder with
  | none => none
  | some recorder => if recorder.keeping = .failing then none else some recorder.ledger

/-- The desk as the surroundings of a visit. -/
def surroundings : Surroundings Desk where
  display event d := ([], d.display event)
  clock d := (none, d)
  keepsRecords d := d.recorder.isSome
  record := record
  note := note

end Desk

/-- The lines of printed texts, each of which ends its last line. -/
def printedLines (texts : List String) : List String :=
  texts.flatMap (fun text => (Text.pieces (· = '\n') text.toList).map String.ofList) ++ [""]

end GridWalk
