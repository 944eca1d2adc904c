import GridWalk.Level.Basic

/-! # Levels from coordinates

A level may be made from coordinates as they are handed in, which need not be pairs. A list of another
length is found out where it is first used, so the grid and the places before it are checked first. -/

namespace GridWalk.Level

/-- Why coordinates give no level. -/
inductive PlacementError
  | level (error : LevelError)
  | coordinates (error : CoordinateError)
deriving DecidableEq, Repr

/-- The position of coordinates as they are handed in. -/
def place (c : Coordinates) : Except PlacementError Position :=
  (Position.ofCoordinates c).mapError .coordinates

/-- Refuses unless a condition holds. -/
def unlessRefuse (condition : Bool) (error : LevelError) : Except PlacementError Unit :=
  if condition then .ok () else .error (.level error)

/-- The energy cell at coordinates. -/
def energyPlace (g : Grid) (c : Coordinates) : Except PlacementError Position := do
  let p ← place c
  unlessRefuse (g.terrain? p = some .energy) (.notEnergy p)
  return p

/-- A level whose start, door and energy positions are given by coordinates. -/
def ofCoordinates (number : Int) (grid : Grid) (start door : Coordinates) (energy : List Coordinates) :
    Except PlacementError Level := do
  unlessRefuse (grid.width ≠ 0) .emptyGrid
  unlessRefuse (grid.all (·.length == grid.width)) .unequalRows
  let start ← place start
  unlessRefuse (grid.contains start) (.startOutside start)
  let door ← place door
  unlessRefuse (grid.contains door) (.doorOutside door)
  unlessRefuse (grid.terrain? door = some .door) (.notADoor door)
  let energy ← energy.mapM (energyPlace grid)
  (Level.ofDraft { number, grid, start, door, energy }).mapError .level

end GridWalk.Level
