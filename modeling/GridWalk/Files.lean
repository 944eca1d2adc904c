/-! # Files

The files of a working directory by their paths. A directory exists if it is known to exist or a file
lies in it. -/

namespace GridWalk

/-- A path by the names on the way. -/
abbrev Path := List String

namespace Path

/-- The name that begins a path from the root. -/
def root : String := "/"

/-- The path of a text; empty names and single points lead nowhere. -/
def ofText (text : String) : Path :=
  let names := (text.splitToList (· = '/')).filter fun name => name ≠ "" && name ≠ "."
  if text.toList.head? = some '/' then root :: names else names

/-- Whether a path begins at the root rather than in the working directory. -/
def isRooted (p : Path) : Bool := p.head? = some root

/-- The path as a text, its names separated by slashes. -/
def text (p : Path) : String :=
  if p.isEmpty then "." else if p.isRooted then root ++ "/".intercalate p.tail else "/".intercalate p

end Path

/-- Why a file is not read or written. -/
inductive FileError
  | notFound
  | isDirectory
  | notADirectory
  | occupied
deriving DecidableEq, Repr

/-- The text of an error. -/
def FileError.message : FileError → String
  | .notFound => "no such file"
  | .isDirectory => "a directory stands there"
  | .notADirectory => "a file stands on the way"
  | .occupied => "a file stands where a directory should be"

/-- The files by their paths, the text of the first entry of a path being that of the file. -/
structure Files where
  entries : List (Path × String) := []
  /-- Directories that exist whether files lie in them or not. -/
  directories : List Path := []
deriving DecidableEq, Repr

namespace Files

/-- Files of given names and texts. -/
def ofTexts (texts : List (String × String)) : Files where
  entries := texts.map fun (name, text) => (Path.ofText name, text)

/-- The text of the file at a path. -/
def text? (fs : Files) (p : Path) : Option String := (fs.entries.find? (·.1 == p)).map (·.2)

/-- Whether a path leads to a file. -/
def isFile (fs : Files) (p : Path) : Bool := (fs.text? p).isSome

/-- Whether a path leads to a directory: the working directory, the root, one that is known, or one
that holds a file. -/
def isDirectory (fs : Files) (p : Path) : Bool :=
  p.isEmpty || p == [Path.root] || fs.directories.contains p ||
    fs.entries.any fun e => p.length < e.1.length && p.isPrefixOf e.1

/-- Whether a file stands on the way of a path. -/
def isBlocked (fs : Files) (p : Path) : Bool :=
  fs.entries.any fun e => e.1.length < p.length && e.1.isPrefixOf p

/-- Reads a file. -/
def read (fs : Files) (p : Path) : Except FileError String :=
  match fs.text? p with
  | some text => .ok text
  | none => .error (if fs.isDirectory p then .isDirectory else if fs.isBlocked p then .notADirectory else .notFound)

/-- The files with a new text at a path. -/
def put (fs : Files) (p : Path) (text : String) : Files :=
  if fs.isFile p then { fs with entries := fs.entries.map fun e => if e.1 == p then (p, text) else e }
  else { fs with entries := fs.entries ++ [(p, text)] }

/-- The files whose texts differ from what they were before. -/
def changedSince (fs before : Files) : List (Path × String) :=
  fs.entries.filter fun e => before.text? e.1 ≠ some e.2

/-- Opens a file to write to it, where the directory must exist already. -/
def openIn (fs : Files) (p : Path) : Except FileError Files :=
  if fs.isDirectory p then .error .isDirectory
  else if fs.isBlocked p then .error .notADirectory
  else if fs.isFile p || fs.isDirectory p.dropLast then .ok (fs.put p ((fs.text? p).getD ""))
  else .error .notFound

/-- Writes a file and makes the directories on its way. -/
def write (fs : Files) (p : Path) (text : String) : Except FileError Files :=
  if fs.isFile p.dropLast then .error .occupied
  else if fs.isBlocked p then .error .notADirectory
  else if fs.isDirectory p then .error .isDirectory
  else .ok (fs.put p text)

end Files
end GridWalk
