import GridWalk.Command.Reference
import GridWalk.Desk
import GridWalk.Level.Loading
import GridWalk.Level.Picture

/-! # Scripts

A script is a list of commands, separated by line ends and semicolons, that load levels, set the seed
and the time, and make visits. A line that begins with `#` is a comment. Commands are carried out one
after the other until one fails. -/

namespace GridWalk

namespace Script

/-- A command of a script by its words. -/
abbrev Command := List String

/-- The words of a command. -/
def commandOf (cs : List Char) : Command := (Text.words cs).map String.ofList

/-- The commands of a line. -/
def lineCommands (line : List Char) : List Command :=
  let line := Text.trim line
  if line.head? = some '#' then []
  else ((Text.pieces (· = ';') line).map commandOf).filter (!·.isEmpty)

/-- The commands of a script in order. -/
def commands (text : String) : List Command := (Text.lines text.toList).flatMap lineCommands

/-- Why a script fails. -/
inductive Error
  /-- A command lacks an argument or has a wrong one. -/
  | usage (expected : String)
  | unknownCommand (name : String)
  | load (error : LoadError)
  | number (error : NumberError)
  | visit (error : VisitError)
deriving DecidableEq, Repr

/-- The text of an error. -/
def Error.message : Error → String
  | .usage expected => expected
  | .unknownCommand name => s!"Unknown script command '{name}'"
  | .load error => error.message
  | .number error => error.message
  | .visit error => error.message

/-- What a script works on. -/
structure State where
  visit : Visit
  elapsed : Number := .whole 0
  seeding : Seeding
  desk : Desk

namespace State

/-- The level of the visit. -/
def level (s : State) : Level := s.visit.level

/-- Prints a text at the desk. -/
def print (text : String) (s : State) : State := { s with desk := s.desk.print text }

/-- Does something on the visit at the desk. -/
def act {α : Type} (action : Act Desk α) (s : State) : Except Error α × State :=
  match action (s.visit, s.desk) with
  | (result, visit, desk) => (result.mapError .visit, { s with visit, desk })

/-- Prints the level with the player where the visit has him. -/
def showBoard (s : State) : State := s.print (Picture.text s.level (some s.visit.position))

end State

/-- A visit to a level that is loaded now, and the entries of loading it. -/
def load (name : String) (seeding : Seeding) : Except Error (Visit × List Journal.Entry) :=
  match Level.load name seeding with
  | .ok level => .ok ({ level }, level.loadingNotes name)
  | .error error => .error (.load error)

/-- Loads a level and announces it. -/
def loadLevel (name : String) (s : State) : Except Error Unit × State :=
  match load name s.seeding with
  | .ok (visit, notes) =>
    let s := { s with visit, elapsed := .whole 0, seeding := s.seeding.next, desk := s.desk.noteAll notes }
    (.ok (), s.print s.level.title)
  | .error error => (.error error, s)

/-- Sets the seed of the levels to be loaded. -/
def setSeed (text : String) (s : State) : Except Error Unit × State :=
  match readInt text with
  | .ok seed => (.ok (), { s with seeding.seed := some seed })
  | .error error => (.error (.number error), s)

/-- Sets the elapsed time and says so if time is up. -/
def setTime (text : String) (s : State) : Except Error Unit × State :=
  match readReal text with
  | .error error => (.error (.number error), s)
  | .ok elapsed =>
    match { s with elapsed := .real elapsed }.act (Visit.checkTime Desk.surroundings (.real elapsed)) with
    | (.error error, s) => (.error error, s)
    | (.ok false, s) => (.ok (), s)
    | (.ok true, s) =>
      let limit := (s.level.timeLimit.map Number.text).getD "None"
      (.ok (), s.print s!"timeout: {limit}s")

/-- Judges a text for the level without walking it. -/
def validate (text : String) (s : State) : State :=
  match ({ level := s.level : Visit }).rejection? (some text) with
  | none => s.print "valid"
  | some rejection => s.print s!"invalid: {rejection.message}"

/-- The lines printed after a submission. -/
def reportLines (r : Report) : List String :=
  match r.valid, r.outcome, r.walk with
  | true, some outcome, some walk =>
    let energized := if walk.energized then "True" else "False"
    [s!"outcome: {outcome.text} at {walk.position.text} energized={energized} commands={r.commandsUsed}",
      r.message]
  | _, _, _ => [s!"rejected: {r.message}"]

/-- Submits a command text, and prints what came of it. -/
def run (text : String) (s : State) : Except Error Unit × State :=
  match s.act (Visit.submit Desk.surroundings 0 (some text) (some s.elapsed)) with
  | (.error error, s) => (.error error, s)
  | (.ok report, s) => (.ok (), (reportLines report).foldl (fun s line => s.print line) s)

/-- Leaves the visit, and says if this was recorded. -/
def leave (s : State) : Except Error Unit × State :=
  match s.act (Visit.leave Desk.surroundings (some s.elapsed)) with
  | (.error error, s) => (.error error, s)
  | (.ok none, s) => (.ok (), s)
  | (.ok (some record), s) => (.ok (), s.print s!"recorded exit on level {record.level}")

/-- Begins the visit and its time anew. -/
def restart (s : State) : Except Error Unit × State :=
  match s.act (Visit.restart Desk.surroundings) with
  | (.error error, s) => (.error error, s)
  | (.ok _, s) => (.ok (), { s with elapsed := .whole 0 })

/-- Switches the printing of unit steps on or off. -/
def trace (arguments : List String) (s : State) : Except Error Unit × State :=
  match arguments.head?.map fun word => String.ofList (Text.lower word.toList) with
  | some "on" => (.ok (), { s with desk := { s.desk with showsMoves := true } })
  | some "off" => (.ok (), { s with desk := { s.desk with showsMoves := false } })
  | _ => (.error (.usage "trace on|off expected"), s)

/-- The first argument of a command. -/
def withArgument (expected : String) (act : String → State → Except Error Unit × State)
    (arguments : List String) (s : State) : Except Error Unit × State :=
  match arguments with
  | [] => (.error (.usage expected), s)
  | first :: _ => act first s

/-- All arguments of a command as one command text. -/
def withText (expected : String) (act : String → State → Except Error Unit × State)
    (arguments : List String) (s : State) : Except Error Unit × State :=
  if arguments.isEmpty then (.error (.usage expected), s) else act (" ".intercalate arguments) s

/-- Carries out a command of a name. -/
def performNamed (name : String) (arguments : List String) (s : State) : Except Error Unit × State :=
  match name with
  | "level" | "load" => withArgument "level <name|number> expected" loadLevel arguments s
  | "seed" => withArgument "seed <n> expected" setSeed arguments s
  | "time" | "elapsed" => withArgument "time <seconds> expected" setTime arguments s
  | "validate" | "check" =>
    withText "validate <commands> expected" (fun text s => (.ok (), validate text s)) arguments s
  | "run" | "play" => withText "run <commands> expected" run arguments s
  | "show" | "print" => (.ok (), s.showBoard)
  | "trace" => trace arguments s
  | "restart" | "reset" => restart s
  | "exit" | "quit" => leave s
  | "help" => (.ok (), s.print GridWalk.Command.scriptReference)
  | _ => (.error (.unknownCommand name), s)

/-- Carries out a command; the name counts in small letters. -/
def perform (command : Command) (s : State) : Except Error Unit × State :=
  match command with
  | [] => (.ok (), s)
  | name :: arguments => performNamed (String.ofList (Text.lower name.toList)) arguments s

/-- Carries out commands until one fails. -/
def performAll : List Command → State → Except Error Unit × State
  | [], s => (.ok (), s)
  | command :: rest, s =>
    match perform command s with
    | (.ok _, s) => performAll rest s
    | (.error error, s) => (.error error, s)

/-- The end of a script that did not fail. -/
def close (s : State) : State := (s.print "Script complete").showBoard

/-- Runs a script at a desk, beginning on the level of a name. -/
def execute (text : String) (name : String) (seeding : Seeding) (desk : Desk) : Except Error Unit × Desk :=
  match load name seeding with
  | .error error => (.error error, desk)
  | .ok (visit, notes) =>
    match performAll (commands text) { visit, seeding := seeding.next, desk := desk.noteAll notes } with
    | (.ok _, s) => (.ok (), (close s).desk)
    | (.error error, s) => (.error error, s.desk)

end Script
end GridWalk
