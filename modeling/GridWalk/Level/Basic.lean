import GridWalk.Number.Basic
import GridWalk.Position

/-! # Levels

A level is a rectangular grid of cells with a start and a door. The listed energy positions are energy
cells, the door is a door cell, and the start lies on the grid. A cell is found by its place in the
grid; the position that it stores is where it is drawn. -/

namespace GridWalk

/-- What a cell is made of. -/
inductive Terrain
  | safe
  | energy
  | void
  | snake
  | door
deriving DecidableEq, Repr, Inhabited

/-- The name of a terrain. -/
def Terrain.name : Terrain → String
  | .safe => "safe"
  | .energy => "energy"
  | .void => "void"
  | .snake => "snake"
  | .door => "door"

/-- A cell of a grid with the position that it stores; a guide path may run over it. -/
structure Cell where
  position : Position
  terrain : Terrain := .safe
  onGuide : Bool := false
deriving DecidableEq, Repr, Inhabited

/-- The rows of a level from the top down, each from left to right. -/
abbrev Grid := List (List Cell)

namespace Grid

/-- The length of the first row. -/
def width (g : Grid) : Nat := (g.head?.getD []).length

/-- The number of rows. -/
def height (g : Grid) : Nat := g.length

/-- Whether a position lies on the grid. -/
def contains (g : Grid) (p : Position) : Bool :=
  0 ≤ p.x && p.x < g.width && 0 ≤ p.y && p.y < g.height

/-- The cell at a position of the grid. -/
def cell? (g : Grid) (p : Position) : Option Cell :=
  if 0 ≤ p.x ∧ 0 ≤ p.y then g[p.y.toNat]?.bind (·[p.x.toNat]?) else none

/-- The terrain at a position of the grid. -/
def terrain? (g : Grid) (p : Position) : Option Terrain := (g.cell? p).map (·.terrain)

/-- The cells, row by row. -/
def cells (g : Grid) : List Cell := g.flatten

end Grid

/-- Why something is no level. -/
inductive LevelError
  | unknownCharacter (c : Char) (position : Position)
  | secondStart
  | secondDoor
  | noStart
  | noDoor
  | emptyGrid
  | unequalRows
  | startOutside (p : Position)
  | doorOutside (p : Position)
  | notADoor (p : Position)
  | notEnergy (p : Position)
  | unknownName (name : String)
  | numberTooSmall (number : Int)
deriving DecidableEq, Repr

/-- What is fixed about a level before its grid is checked. -/
structure LevelDraft where
  number : Int
  grid : Grid
  start : Position
  door : Position
  energy : List Position := []
  requiredEnergy : Int := 1
  allowsLoops : Bool := true
  timeLimit : Option Number := none
  hasGuide : Bool := false
  name : String := ""

/-- A level that can be played. -/
structure Level extends LevelDraft where
  width_pos : 0 < grid.width
  rectangular : ∀ row ∈ grid, row.length = grid.width
  start_mem : grid.contains start = true
  door_terrain : grid.terrain? door = some .door
  energy_terrain : ∀ p ∈ energy, grid.terrain? p = some .energy

namespace Level

/-- Checks a draft: the grid's shape, the start, the door and the energy positions, in this order. -/
def ofDraft (d : LevelDraft) : Except LevelError Level :=
  if hw : d.grid.width = 0 then .error .emptyGrid
  else if hr : ¬∀ row ∈ d.grid, row.length = d.grid.width then .error .unequalRows
  else if hs : ¬d.grid.contains d.start then .error (.startOutside d.start)
  else if ¬d.grid.contains d.door then .error (.doorOutside d.door)
  else if hd : ¬d.grid.terrain? d.door = some .door then .error (.notADoor d.door)
  else match he : d.energy.find? (d.grid.terrain? · ≠ some .energy) with
    | some p => .error (.notEnergy p)
    | none => .ok {
        toLevelDraft := d
        width_pos := Nat.pos_of_ne_zero hw
        rectangular := Decidable.not_not.mp hr
        start_mem := Decidable.not_not.mp hs
        door_terrain := Decidable.not_not.mp hd
        energy_terrain := by simpa using he }

/-- The width of a level's grid. -/
def width (l : Level) : Nat := l.grid.width

/-- The height of a level's grid. -/
def height (l : Level) : Nat := l.grid.height

/-- Whether a position lies on the level. -/
def contains (l : Level) (p : Position) : Bool := l.grid.contains p

/-- The terrain at a position of the level. -/
def terrain? (l : Level) (p : Position) : Option Terrain := l.grid.terrain? p

end Level
end GridWalk
