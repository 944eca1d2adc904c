import GridWalk.Files
import GridWalk.Journal
import GridWalk.Json.Reading
import GridWalk.Json.Writing
import GridWalk.Records.Ledger
import GridWalk.Text.Pieces

/-! # Recorders

A recorder takes records into a ledger. It may keep the ledger in a JSON file, which is written anew
with each record and read again when the recorder is opened. -/

namespace GridWalk

/-- Why a recorder is not opened, or a record not taken. -/
inductive RecorderError
  | file (error : FileError)
  | json (error : Json.ReadError)
  | notAList (path : Path)
  | format (error : Record.FormatError)
  | diskFull
deriving DecidableEq, Repr

/-- The text of an error. -/
def RecorderError.message : RecorderError → String
  | .file error => error.message
  | .json error => error.message
  | .notAList path => s!"Progress file {path.text} must hold a JSON array"
  | .format error => error.message
  | .diskFull => "disk full"

/-- Where a recorder keeps its ledger. -/
inductive Keeping
  | memory
  | file (path : Path)
  /-- A recorder that takes no record. -/
  | failing
deriving DecidableEq, Repr

/-- A ledger, and where it is kept. -/
structure Recorder where
  keeping : Keeping := .memory
  ledger : Ledger := []
deriving DecidableEq, Repr

namespace Recorder

/-- The mark that some programs put in front of a text. -/
def byteOrderMark : Char := '\uFEFF'

/-- The text of a file that keeps a ledger. -/
def fileText (l : Ledger) : String := (Json.list (l.map Record.json)).manyLines

/-- The ledger in the text of a file. -/
def readLedger (path : Path) (text : String) : Except RecorderError Ledger := do
  let unified := Text.unifyLineEnds text.toList
  if unified.head? = some byteOrderMark then throw (.json .malformed)
  match ← (Json.read (String.ofList unified)).mapError .json with
  | .list items => (items.mapM Record.ofJson).mapError .format
  | _ => throw (.notAList path)

/-- Opens a recorder that keeps its ledger in a file, with the records of the file if there is one. -/
def openAt (path : Path) (files : Files) : Except RecorderError Recorder :=
  if files.isFile path || files.isDirectory path then do
    let text ← (files.read path).mapError .file
    return { keeping := .file path, ledger := ← readLedger path text }
  else .ok { keeping := .file path }

/-- The entry made when a record was written to a file. -/
def note (path : Path) (r : Record) : Journal.Entry where
  severity := .info
  source := "progress"
  text := "Recorded progress for level " ++ toString r.level ++ " (success=" ++
    (if r.success then "True" else "False") ++ ") in " ++ path.text

/-- The entries made when a record was taken. -/
def notes (k : Recorder) (r : Record) : List Journal.Entry :=
  match k.keeping with
  | .file path => [note path r]
  | _ => []

/-- Takes a record. A record that could not be written stays in the ledger. -/
def record (k : Recorder) (r : Record) (files : Files) : Except RecorderError Unit × Recorder × Files :=
  match k.keeping with
  | .failing => (.error .diskFull, k, files)
  | .memory => (.ok (), { k with ledger := k.ledger ++ [r] }, files)
  | .file path =>
    let kept := { k with ledger := k.ledger ++ [r] }
    match files.write path (fileText kept.ledger) with
    | .ok files => (.ok (), kept, files)
    | .error error => (.error (.file error), kept, files)

end Recorder
end GridWalk
