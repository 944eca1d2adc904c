import GridWalk.Client.Game
import GridWalk.CommandLine.Arguments
import GridWalk.Headless

/-! # Executing a command line

A command line shows the reference, runs a script, submits a text to a level, or plays in a window.
Everything it reads and writes is given: the files, what is drawn for levels without a seed, and the
events of the window with the ticks of the clock. -/

namespace GridWalk.CommandLine

/-- Why a program breaks off. -/
inductive Failure
  /-- An unknown severity of journal entries, or a journal file that cannot be opened. -/
  | console
  | journalFile
  | recorder (error : RecorderError)
  | scriptFile (error : FileError)
  | script (error : Script.Error)
  | game (error : Client.GameError)
deriving DecidableEq, Repr

/-- The text of a failure. -/
def Failure.message : Failure → String
  | .console => "Unable to configure handler 'console'"
  | .journalFile => "Unable to configure handler 'file'"
  | .recorder error => error.message
  | .scriptFile error => error.message
  | .script error => error.message
  | .game error => error.message

/-- How a program ends. -/
inductive Ending
  | returned (code : Nat)
  | stopped (code : Nat)
  | failed (failure : Failure)
deriving DecidableEq, Repr

/-- What a program leaves behind. -/
structure Outcome where
  ending : Ending
  out : List String := [""]
  err : List String := [""]
  files : Files
  trace : Option (Array Client.Trace) := none

/-- The name under which the program reports errors. -/
def programName : String := "main.py"

/-- Where the journal goes: to the error output, and its errors to a file if one is named. -/
structure JournalSetup where
  threshold : Journal.Severity
  file : Option Path := none
deriving DecidableEq, Repr

/-- The severity of the name that an option gives, in capitals or not. -/
def severityOf? (name : String) : Option Journal.Severity :=
  Journal.Severity.ofName? (String.ofList (Text.upper name.toList))

/-- A value that is given and not empty. -/
def given? (value : Option String) : Option String := value.filter (!·.isEmpty)

/-- The paths of the files that are named. -/
def Settings.paths (s : Settings) : List Path :=
  ([s.scriptFile, s.progressFile, s.errorLog].filterMap given?).map Path.ofText

/-- Whether the settings ask for a game in a window. -/
def Settings.opensWindow (s : Settings) : Bool :=
  !s.helpCommands && !s.headless && (given? s.script).isNone && (given? s.scriptFile).isNone

/-- Sets the journal up; its file is there from now on. -/
def setUpJournal (s : Settings) (files : Files) : Except Failure (JournalSetup × Files) :=
  match severityOf? s.logLevel with
  | none => .error .console
  | some threshold =>
    match given? s.errorLog with
    | none => .ok ({ threshold }, files)
    | some name =>
      match files.openIn (Path.ofText name) with
      | .ok files => .ok ({ threshold, file := some (Path.ofText name) }, files)
      | .error _ => .error .journalFile

namespace JournalSetup

/-- The entries that reach the error output. -/
def shown (j : JournalSetup) (notes : List Journal.Entry) : List Journal.Entry :=
  notes.filter (·.reaches j.threshold)

/-- The files once the errors among the entries were added to the journal's file. -/
def store (j : JournalSetup) (notes : List Journal.Entry) (files : Files) : Files :=
  match j.file with
  | none => files
  | some path =>
    let lines := ((j.shown notes).filter (·.reaches .error)).map fun e => e.line ++ "\n"
    if lines.isEmpty then files
    else files.put path ((files.text? path).getD "" ++ String.join lines)

end JournalSetup

/-- What a program leaves that worked at a desk. -/
def leaving (j : JournalSetup) (desk : Desk) (ending : Ending) (messages : List String)
    (trace : Option (Array Client.Trace)) : Outcome where
  ending := ending
  out := printedLines desk.out.toList
  err := printedLines ((j.shown desk.notes.toList).map (·.line) ++ messages)
  files := j.store desk.notes.toList desk.files
  trace := trace

/-- The entry and the message for a level that cannot be loaded. -/
def refuseLevel (j : JournalSetup) (desk : Desk) (error : LevelError) : Outcome :=
  let entry : Journal.Entry := { severity := .error, source := "main", text := error.message }
  leaving j (desk.note entry) (.returned 2) [error.message] none

/-- What a program leaves that ran without a window. -/
def concluding (j : JournalSetup) (result : Except Script.Error Nat) (desk : Desk) : Outcome :=
  match result with
  | .ok code => leaving j desk (.returned code) [] none
  | .error (.load (.level error)) => refuseLevel j desk error
  | .error error => leaving j desk (.failed (.script error)) [] none

/-- The text of a script: given itself, or by the name of a file. -/
def scriptText (s : Settings) (files : Files) : Except Failure (Option String) :=
  match given? s.script, given? s.scriptFile with
  | some text, _ => .ok (some text)
  | none, some name =>
    match files.read (Path.ofText name) with
    | .ok text => .ok (some (String.ofList (Text.unifyLineEnds text.toList)))
    | .error error => .error (.scriptFile error)
  | none, none => .ok none

/-- Opens the recorder that an option names. -/
def openRecorder (s : Settings) (files : Files) : Except Failure (Option Recorder) :=
  match given? s.progressFile with
  | none => .ok none
  | some name => ((Recorder.openAt (Path.ofText name) files).mapError .recorder).map some

/-- Does what the settings ask for at a desk. -/
def work (s : Settings) (j : JournalSetup) (script : Option String) (desk : Desk) (fresh : Nat → Nat → Nat)
    (deltas : List Int) (events : List (List Client.WindowEvent)) : Outcome :=
  let seeding : Seeding := { seed := s.seed, fresh }
  match script with
  | some text =>
    let (result, desk) := Script.execute text s.level seeding desk
    concluding j (result.map fun _ => 0) desk
  | none =>
    if s.headless then
      let (result, desk) := Headless.execute s.level (s.commands.map some) seeding desk
      concluding j (result.map fun success => if success then 0 else 1) desk
    else
      let (result, remains) := Client.Game.execute s.level seeding desk deltas events
      let ending := match result with
        | .ok _ => Ending.returned 0
        | .error error => .failed (.game error)
      leaving j remains.desk ending [] (some remains.trace)

/-- Executes a program with settings. -/
def executeSettings (s : Settings) (files : Files) (fresh : Nat → Nat → Nat) (deltas : List Int)
    (events : List (List Client.WindowEvent)) : Outcome :=
  match setUpJournal s files with
  | .error failure => { ending := .failed failure, files }
  | .ok (j, files) =>
    if s.helpCommands then leaving j { files, out := #[Command.reference] } (.returned 0) [] none
    else match openRecorder s files with
      | .error failure => leaving j { files } (.failed failure) [] none
      | .ok recorder =>
        match scriptText s files with
        | .error failure => leaving j { files } (.failed failure) [] none
        | .ok script => work s j script { files, recorder } fresh deltas events

/-- The last line of a text. -/
def lastLine (text : String) : String :=
  ((Text.pieces (· = '\n') text.toList).getLast?.map String.ofList).getD ""

/-- Executes a command line. -/
def execute (arguments : List String) (files : Files) (fresh : Nat → Nat → Nat) (deltas : List Int)
    (events : List (List Client.WindowEvent)) : Outcome :=
  match Settings.ofArguments arguments with
  | .error .help => { ending := .stopped 0, files }
  | .error stop =>
    { ending := .stopped 2, err := [lastLine s!"{programName}: error: {stop.message}"], files }
  | .ok settings => executeSettings settings files fresh deltas events

end GridWalk.CommandLine
