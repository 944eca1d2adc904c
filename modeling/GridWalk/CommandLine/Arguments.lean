import GridWalk.Number.Reading

/-! # Arguments

The arguments of the command line. An option may be shortened as long as one option only begins so; its
value follows it or stands behind an equals sign. Of an option given twice the last value counts. -/

namespace GridWalk.CommandLine

/-- The options of the command line. -/
inductive Flag
  | help
  | headless
  | level
  | seed
  | commands
  | script
  | scriptFile
  | progressFile
  | helpCommands
  | logLevel
  | errorLog
deriving DecidableEq, Repr

namespace Flag

/-- The ways to write the options, in the order in which they are listed. -/
def spellings : List (String × Flag) := [
  ("-h", help), ("--help", help), ("--headless", headless), ("--level", level), ("--seed", seed),
  ("--commands", commands), ("--script", script), ("--script-file", scriptFile),
  ("--progress-file", progressFile), ("--help-commands", helpCommands), ("--log-level", logLevel),
  ("--error-log", errorLog)]

/-- Whether an option stands with a value. -/
def takesValue : Flag → Bool
  | help | headless | helpCommands => false
  | _ => true

/-- The spellings of an option together. -/
def name (f : Flag) : String := "/".intercalate ((spellings.filter (·.2 = f)).map (·.1))

/-- The option of an exact spelling. -/
def ofSpelling? (text : String) : Option Flag := (spellings.find? (·.1 == text)).map (·.2)

end Flag

/-- What the arguments settle. -/
structure Settings where
  headless : Bool := false
  level : String := "first-steps"
  seed : Option Int := none
  commands : Option String := none
  script : Option String := none
  scriptFile : Option String := none
  progressFile : Option String := none
  helpCommands : Bool := false
  logLevel : String := "WARNING"
  errorLog : Option String := none
deriving DecidableEq, Repr

/-- Why the arguments end the program. -/
inductive Stop
  | help
  | ambiguous (argument : String) (candidates : List String)
  | noValue (flag : Flag)
  | unwantedValue (flag : Flag) (value : String)
  | notWhole (flag : Flag) (value : String)
  | unrecognized (arguments : List String)
deriving DecidableEq, Repr

/-- What is reported of arguments that cannot be used. -/
def Stop.message : Stop → String
  | .help => ""
  | .ambiguous argument candidates => s!"ambiguous option: {argument} could match " ++ ", ".intercalate candidates
  | .noValue flag => s!"argument {flag.name}: expected one argument"
  | .unwantedValue flag value =>
    s!"argument {flag.name}: ignored explicit argument {Text.quoted value}"
  | .notWhole flag value => s!"argument {flag.name}: invalid int value: {Text.quoted value}"
  | .unrecognized arguments => "unrecognized arguments: " ++ " ".intercalate arguments

/-- What an argument is taken for. -/
inductive Role
  | plain
  /-- The argument after which no options come. -/
  | divider
  | unknown
  | option (flag : Flag) (value : Option String)
  /-- A short option with letters after it, behind an equals sign or not. -/
  | cluster (flag : Flag) (separated : Bool) (letters : List Char)
deriving DecidableEq, Repr

/-- Whether a text is a negative number, a line end after it allowed. -/
def looksNegative (cs : List Char) : Bool :=
  let digits (cs : List Char) : Bool := cs.all fun c => (Text.decimalValue? c).isSome
  let body (cs : List Char) : Bool :=
    let whole := cs.takeWhile (· ≠ '.')
    match cs.dropWhile (· ≠ '.') with
    | [] => !whole.isEmpty && digits whole
    | _ :: fraction => digits whole && !fraction.isEmpty && digits fraction
  match cs with
  | '-' :: rest => body rest || (rest.getLast? = some '\n' && body rest.dropLast)
  | _ => false

/-- A text before its first equals sign, and after it if there is one. -/
def splitAtEquals (cs : List Char) : String × Option String :=
  (String.ofList (cs.takeWhile (· ≠ '=')), match cs.dropWhile (· ≠ '=') with
    | [] => none
    | _ :: value => some (String.ofList value))

/-- What an option with a value written behind it is taken for. -/
def withValue (flag : Flag) (spelling : String) (value : Option String) : Role :=
  match value, spelling.toList with
  | some v, ['-', _] => .cluster flag true v.toList
  | value, _ => .option flag value

/-- The options that an argument may shorten, each with its role. -/
def candidates (cs : List Char) : List (String × Role) :=
  match cs with
  | '-' :: '-' :: _ =>
    let (start, value) := splitAtEquals cs
    (Flag.spellings.filter fun s => start.toList.isPrefixOf s.1.toList).map fun s => (s.1, .option s.2 value)
  | a :: b :: letters =>
    Flag.spellings.filterMap fun s =>
      if s.1.toList = [a, b] then some (s.1, .cluster s.2 false letters)
      else if cs.isPrefixOf s.1.toList then some (s.1, .option s.2 none) else none
  | _ => []

/-- What an argument that is no exact spelling is taken for. -/
def looseRole (argument : String) : Except Stop Role :=
  let cs := argument.toList
  match candidates cs with
  | [found] => .ok found.2
  | [] => .ok (if looksNegative cs || cs.contains ' ' then .plain else .unknown)
  | several => .error (.ambiguous argument (several.map (·.1)))

/-- What an argument is taken for. -/
def roleOf (argument : String) : Except Stop Role :=
  let cs := argument.toList
  if cs.head? ≠ some '-' then .ok .plain
  else match Flag.ofSpelling? argument with
    | some flag => .ok (.option flag none)
    | none =>
      if cs.length = 1 then .ok .plain
      else
        let (spelling, value) := splitAtEquals cs
        match value, Flag.ofSpelling? spelling with
        | some v, some flag => .ok (withValue flag spelling (some v))
        | _, _ => looseRole argument

/-- The arguments with their roles; all are plain after the divider. -/
def roles : List String → Except Stop (List (String × Role))
  | [] => .ok []
  | argument :: rest =>
    if argument = "--" then .ok ((argument, .divider) :: rest.map (·, .plain))
    else do return (argument, ← roleOf argument) :: (← roles rest)

/-- The settings with a value for an option. -/
def Settings.with (s : Settings) (flag : Flag) (value : String) : Except Stop Settings :=
  match flag with
  | .help | .headless | .helpCommands => .ok s
  | .level => .ok { s with level := value }
  | .seed =>
    match readInt value with
    | .ok seed => .ok { s with seed := some seed }
    | .error _ => .error (.notWhole flag value)
  | .commands => .ok { s with commands := some value }
  | .script => .ok { s with script := some value }
  | .scriptFile => .ok { s with scriptFile := some value }
  | .progressFile => .ok { s with progressFile := some value }
  | .logLevel => .ok { s with logLevel := value }
  | .errorLog => .ok { s with errorLog := some value }

/-- The settings with an option that takes no value. -/
def Settings.switched (s : Settings) (flag : Flag) : Except Stop Settings :=
  match flag with
  | .help => .error .help
  | .headless => .ok { s with headless := true }
  | .helpCommands => .ok { s with helpCommands := true }
  | _ => .ok s

/-- How a short option with letters after it ends the program: further short options may follow. -/
def clusterStop (flag : Flag) : (separated : Bool) → List Char → Stop
  | true, value => .unwantedValue flag (String.ofList value)
  | false, '-' :: value => .unwantedValue flag (String.ofList ('-' :: value))
  | false, 'h' :: '=' :: value => clusterStop flag true value
  | false, 'h' :: letters => clusterStop flag false letters
  | false, _ => .help

/-- Takes arguments one after the other; those without a use are collected. -/
def take : List (String × Role) → Settings → (unused : List String) → Except Stop (Settings × List String)
  | [], s, unused => .ok (s, unused)
  | (argument, .plain) :: rest, s, unused => take rest s (unused ++ [argument])
  | (argument, .divider) :: rest, s, unused => take rest s (unused ++ [argument])
  | (argument, .unknown) :: rest, s, unused => take rest s (unused ++ [argument])
  | (_, .cluster flag separated letters) :: _, _, _ => .error (clusterStop flag separated letters)
  | (_, .option flag (some value)) :: rest, s, unused =>
    if flag.takesValue then do take rest (← s.with flag value) unused
    else .error (.unwantedValue flag value)
  | (_, .option flag none) :: (next, role) :: rest, s, unused =>
    if !flag.takesValue then do take ((next, role) :: rest) (← s.switched flag) unused
    else if role = .plain then do take rest (← s.with flag next) unused
    else .error (.noValue flag)
  | [(_, .option flag none)], s, unused =>
    if flag.takesValue then .error (.noValue flag) else do return (← s.switched flag, unused)

/-- Reads the arguments of the command line. -/
def Settings.ofArguments (arguments : List String) : Except Stop Settings := do
  let (settings, unused) ← take (← roles arguments) {} []
  if unused.isEmpty then return settings else throw (.unrecognized unused)

end GridWalk.CommandLine
