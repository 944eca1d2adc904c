import GridWalk.Level.Basic
import GridWalk.Level.Rules

/-! # Written layouts

A layout writes a level as lines of text, one character for each cell. The player starts at `@`, and
`+` marks the guide path over safe cells. -/

namespace GridWalk

/-- The character of a terrain. -/
def Terrain.glyph : Terrain → Char
  | .safe => '.'
  | .energy => 'E'
  | .void => 'V'
  | .snake => 'X'
  | .door => 'D'

namespace Layout

/-- The mark of the guide path. -/
def guideMark : Char := '+'

/-- The mark of the start. -/
def startMark : Char := '@'

/-- The terrain that a character of a layout stands for. -/
def terrain? : Char → Option Terrain
  | '.' | '+' | '@' => some .safe
  | 'E' => some .energy
  | 'V' => some .void
  | 'X' => some .snake
  | 'D' => some .door
  | _ => none

/-- The cell that a character of a layout stands for. -/
def cell (p : Position) (c : Char) : Cell := ⟨p, (terrain? c).getD .safe, c = guideMark⟩

/-- The grid that lines of text lay out. -/
def grid (lines : List (List Char)) : Grid :=
  lines.zipIdx.map fun (line, (y : Nat)) => line.zipIdx.map fun (c, (x : Nat)) => cell ⟨x, y⟩ c

/-- The characters of a layout with their positions, row by row. -/
def characters (lines : List (List Char)) : List (Position × Char) :=
  lines.zipIdx.flatMap fun (line, y) => line.zipIdx.map fun (c, x) => (⟨x, y⟩, c)

/-- The places found so far in a layout. -/
structure Survey where
  start : Option Position := none
  door : Option Position := none
  energy : List Position := []
deriving DecidableEq, Repr

/-- Takes note of a character; a second start or door is refused. -/
def Survey.note (s : Survey) (entry : Position × Char) : Except LevelError Survey :=
  match terrain? entry.2 with
  | none => .error (.unknownCharacter entry.2 entry.1)
  | some terrain =>
    if entry.2 = startMark then
      if s.start.isSome then .error .secondStart else .ok { s with start := some entry.1 }
    else if terrain = .door then
      if s.door.isSome then .error .secondDoor else .ok { s with door := some entry.1 }
    else if terrain = .energy then .ok { s with energy := s.energy ++ [entry.1] }
    else .ok s

/-- The places of a layout. -/
def survey (lines : List (List Char)) : Except LevelError Survey := (characters lines).foldlM Survey.note {}

/-- What a layout leaves open about its level. -/
structure Heading where
  number : Int := 1
  name : String := ""
  allowsLoops : Bool := true
  timeLimit : Option Number := none

/-- The level that lines of text lay out. -/
def level (lines : List (List Char)) (heading : Heading) : Except LevelError Level := do
  match ← survey lines with
  | { start := none, .. } => throw .noStart
  | { door := none, .. } => throw .noDoor
  | { start := some start, door := some door, energy } =>
    Level.ofDraft {
      number := heading.number
      grid := grid lines
      start
      door
      energy
      requiredEnergy := min heading.number Level.maxEnergy
      allowsLoops := heading.allowsLoops
      timeLimit := heading.timeLimit
      hasGuide := lines.any (·.contains guideMark)
      name := heading.name }

end Layout
end GridWalk
