import GridWalk.CommandLine.Execution

/-! # The program

The program reads the files that its arguments name, executes the command line, and writes what came of
it. A game is played by lines of input, each of which is typed into the prompt and entered. -/

namespace GridWalk.CommandLine

/-- The milliseconds between two frames. -/
def frameTime : Int := 16

/-- What stands at a path. -/
inductive Found
  | text (text : String)
  | directory
  | nothing

/-- What stands at a path that leads through directories only. -/
def find (path : Path) : IO Found := do
  try return .text (← IO.FS.readFile path.text)
  catch
    | .inappropriateType .. => return .directory
    | _ => return .nothing

/-- Adds what stands on the way from a directory along further names. -/
def readAlong (files : Files) (directory : Path) : List String → IO Files
  | [] => return files
  | name :: names => do
    let path := directory ++ [name]
    match ← find path with
    | .text text => return files.put path text
    | .directory => readAlong { files with directories := path :: files.directories } path names
    | .nothing => return files

/-- Writes a file and the directories on the way to it. -/
def writeFile (path : Path) (text : String) : IO Unit := do
  IO.FS.createDirAll (Path.text path.dropLast)
  IO.FS.writeFile path.text text

/-- The lines of the input up to its end. -/
partial def readLines (input : IO.FS.Stream) : IO (List String) := do
  let line ← input.getLine
  if line.isEmpty then return []
  else return String.ofList (line.toList.filter (· ≠ '\n')) :: (← readLines input)

/-- The frames of a game: one for each line that is typed. -/
def readFrames : IO (List (List Client.WindowEvent)) := do
  return (← readLines (← IO.getStdin)).map Client.typingLine

/-- The words of a key that is drawn for this run of the program. -/
def drawKey : IO (Array UInt32) := do
  let bytes ← IO.getRandomBytes 64
  return bytes.data.map UInt8.toUInt32

/-- Draws for levels without a seed, those of one load apart from those of another. -/
def freshDraws (key : Array UInt32) (load draw : Nat) : Nat :=
  (Random.Twister.ofKey (key ++ #[UInt32.ofNat load, UInt32.ofNat draw])).word.1.toNat

/-- Writes lines, of which the last one is not ended. -/
def putLines (output : IO.FS.Stream) (lines : List String) : IO Unit := do
  output.putStr ("\n".intercalate lines)
  output.flush

end GridWalk.CommandLine

open GridWalk CommandLine

/-- Runs the program with its arguments and gives its exit code. -/
def main (arguments : List String) : IO UInt32 := do
  let key ← drawKey
  let settings := (CommandLine.Settings.ofArguments arguments).toOption
  let before ← ((settings.map (·.paths)).getD []).foldlM (readAlong · []) {}
  let frames ← if (settings.map (·.opensWindow)).getD false then readFrames else pure []
  let outcome := CommandLine.execute arguments before (freshDraws key) [frameTime] frames
  for (path, text) in outcome.files.changedSince before do writeFile path text
  let out ← IO.getStdout
  let err ← IO.getStderr
  putLines out outcome.out
  putLines out (Client.statusLines (outcome.trace.getD #[]).toList ++ [""])
  putLines err outcome.err
  match outcome.ending with
  | .returned code => return UInt32.ofNat code
  | .stopped code =>
    putLines err ["", ""]
    return UInt32.ofNat code
  | .failed failure =>
    putLines err [failure.message, ""]
    return 1
