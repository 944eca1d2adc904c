import GridWalk.Level.Layout

/-! # Built-in levels

The levels that come with the library, in the order of play. -/

namespace GridWalk

/-- A level of the catalog by its layout. -/
structure CatalogEntry where
  name : String
  number : Int
  lines : List String

namespace Catalog

/-- The first level: a void beside the way, and the door next to the energy. -/
def firstSteps : CatalogEntry where
  name := "first-steps"
  number := 1
  lines := [
    ".....",
    "...ED",
    ".....",
    ".V...",
    "@...."]

/-- A level in which snakes lie around the energy. -/
def snakePit : CatalogEntry where
  name := "snake-pit"
  number := 6
  lines := [
    "......D",
    ".XXXX..",
    ".X..X..",
    ".X.EX..",
    ".X.....",
    ".XXXXX.",
    "@......"]

/-- An advanced level, to be climbed by a repeated pattern. -/
def stairs : CatalogEntry where
  name := "stairs"
  number := 15
  lines := [
    "..........D",
    ".........VV",
    "........V..",
    ".......V...",
    "......V....",
    ".....V.....",
    "....V......",
    "...V.......",
    "..V.E......",
    ".V.........",
    "@.........."]

/-- The built-in levels in the order of play. -/
def entries : List CatalogEntry := [firstSteps, snakePit, stairs]

/-- The names of the built-in levels in the order of play. -/
def names : List String := entries.map (·.name)

/-- The built-in level of a name. -/
def level (name : String) : Except LevelError Level :=
  match entries.find? (·.name == name) with
  | none => .error (.unknownName name)
  | some entry =>
    Layout.level (entry.lines.map String.toList)
      { number := entry.number, name, allowsLoops := Level.allowsLoopsAt entry.number }

end Catalog

/-- The text of an error. -/
def LevelError.message : LevelError → String
  | .unknownCharacter c p => s!"Unknown level character '{c}' at {p.tightText}"
  | .secondStart => "Level has more than one start position"
  | .secondDoor => "Level has more than one door"
  | .noStart => "Level has no start position"
  | .noDoor => "Level has no door"
  | .emptyGrid => "Level grid must not be empty"
  | .unequalRows => "Level grid rows must all have the same width"
  | .startOutside p => s!"Start {p.text} is outside the grid"
  | .doorOutside p => s!"Door {p.text} is outside the grid"
  | .notADoor p => s!"Door {p.text} is not a door cell"
  | .notEnergy p => s!"Energy position {p.text} is not an energy cell"
  | .unknownName name => s!"Unknown level '{name}'. Known levels: " ++ ", ".intercalate Catalog.names
  | .numberTooSmall number => s!"Level numbers start at 1, got {number}"

end GridWalk
