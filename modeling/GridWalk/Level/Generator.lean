import GridWalk.Level.Basic
import GridWalk.Level.Rules
import GridWalk.Random

/-! # Generated levels

A generated level is a square with the start in the bottom left corner and the door in the top right
one. Energy cells are scattered off the border; then voids and snakes drop on free cells, and one that
finds no free cell is left out. Early levels get a guide path that passes the first energy cell; it leads
from one position to another first across and then up or down. -/

namespace GridWalk

namespace Guide

/-- The numbers from `a` to `b`, without `a` itself. -/
def stretch (a b : Int) : List Int :=
  (List.range (b - a).natAbs).map fun (i : Nat) => if a < b then a + ((i : Int) + 1) else a - ((i : Int) + 1)

/-- The positions from `start` to `stop`, without `start` itself. -/
def path (start stop : Position) : List Position :=
  (stretch start.x stop.x).map (⟨·, start.y⟩) ++ (stretch start.y stop.y).map (⟨stop.x, ·⟩)

end Guide

/-- Why no level is loaded. -/
inductive LoadError
  | level (error : LevelError)
  | number (error : NumberError)
  | sizeTooSmall
  /-- The source of draws gave up. -/
  | outOfDraws
deriving DecidableEq, Repr

namespace Generator

open GridWalk.Random

/-- A computation that draws from a source with states in `σ`. -/
abbrev Drawing (σ : Type) := StateT σ (Except LoadError)

variable {σ : Type}

/-- Draws a number below a bound. -/
def draw (source : DrawSource σ) (bound : Nat) : Drawing σ Nat := fun s =>
  match source.below bound s with
  | some drawn => .ok drawn
  | none => .error .outOfDraws

/-- The least side of a grid that has a cell off the border. -/
def minSize : Nat := 3

/-- The start of a square: the bottom left corner. -/
def start (size : Nat) : Position := ⟨0, size - 1⟩

/-- The door of a square: the top right corner. -/
def door (size : Nat) : Position := ⟨size - 1, 0⟩

/-- The number of energy cells of a level. -/
def energyCount (number : Int) (size : Nat) : Nat :=
  (min (min number Level.maxEnergy) ((size - 2) * (size - 2) : Nat)).toNat

/-- The number of obstacles to drop: five on every two levels. -/
def obstacleCount (number : Int) : Except NumberError Int := do
  ((← Binary64.ofInt number).mul (.finite (5 / 2))).truncate

/-- The number of voids among the obstacles: three in five. -/
def voidCount (obstacles : Int) : Except NumberError Int := do
  ((← Binary64.ofInt obstacles).mul (.ofDecimal false 6 (-1))).truncate

/-- The obstacles to drop in order, voids before snakes. -/
def obstacleKinds (number : Int) : Except NumberError (List Terrain) := do
  let obstacles ← obstacleCount number
  let voids ← voidCount obstacles
  return List.replicate (min voids obstacles).toNat .void ++
    List.replicate (obstacles.toNat - (min voids obstacles).toNat) .snake

/-- Draws positions off the border until `count` different ones are found. -/
def scatterEnergy (source : DrawSource σ) (size count : Nat) :
    (fuel : Nat) → (found : List Position) → Drawing σ (List Position)
  | fuel, found =>
    if count ≤ found.length then pure found
    else match fuel with
      | 0 => throw .outOfDraws
      | fuel + 1 => do
        let x ← draw source (size - 2)
        let y ← draw source (size - 2)
        let p : Position := ⟨x + 1, y + 1⟩
        scatterEnergy source size count fuel (if p ∈ found then found else found ++ [p])

/-- How many positions are drawn for an obstacle before it is left out. -/
def maxPlacements : Nat := 100

/-- Draws positions of the grid until one is free. -/
def findFree (source : DrawSource σ) (size : Nat) (taken : Position → Bool) :
    (tries : Nat) → Drawing σ (Option Position)
  | 0 => pure none
  | tries + 1 => do
    let x ← draw source size
    let y ← draw source size
    let p : Position := ⟨x, y⟩
    if taken p then findFree source size taken tries else pure (some p)

/-- The obstacles of a level, the last one first. -/
abbrev Obstacles := List (Position × Terrain)

/-- Whether an obstacle may not drop on a position. -/
def isTaken (size : Nat) (energy : List Position) (placed : Obstacles) (p : Position) : Bool :=
  p = start size || p = door size || energy.contains p || placed.any (·.1 = p)

/-- Drops obstacles one after the other. -/
def dropObstacles (source : DrawSource σ) (size : Nat) (energy : List Position) :
    (kinds : List Terrain) → (placed : Obstacles) → Drawing σ Obstacles
  | [], placed => pure placed
  | kind :: kinds, placed => do
    match ← findFree source size (isTaken size energy placed) maxPlacements with
    | some p => dropObstacles source size energy kinds ((p, kind) :: placed)
    | none => dropObstacles source size energy kinds placed

/-- The guide path of a level: over the first energy cell to the door. -/
def guide (number : Int) (size : Nat) (energy : List Position) : List Position :=
  if !Level.hasGuideAt number then []
  else match energy with
    | [] => Guide.path (start size) (door size)
    | first :: _ => Guide.path (start size) first ++ Guide.path first (door size)

/-- The terrain of a position among what was placed. -/
def terrainAt (size : Nat) (energy : List Position) (placed : Obstacles) (p : Position) : Terrain :=
  if p = door size then .door
  else if energy.contains p then .energy
  else match placed.find? (·.1 = p) with
    | some obstacle => obstacle.2
    | none => .safe

/-- The square grid with what was placed on it. -/
def grid (size : Nat) (energy : List Position) (placed : Obstacles) (guide : List Position) : Grid :=
  (List.range size).map fun (y : Nat) => (List.range size).map fun (x : Nat) =>
    let p : Position := ⟨x, y⟩
    ⟨p, terrainAt size energy placed p, guide.contains p⟩

/-- A level from what was placed on it. -/
def draft (number : Int) (size : Nat) (energy : List Position) (placed : Obstacles) : LevelDraft where
  number
  grid := grid size energy placed (guide number size energy)
  start := start size
  door := door size
  energy
  requiredEnergy := min number Level.maxEnergy
  allowsLoops := Level.allowsLoopsAt number
  timeLimit := (Level.timeLimitAt number).map .whole
  hasGuide := Level.hasGuideAt number
  name := s!"level-{number}"

/-- Generates the level of a number on a square, drawing up to `maxDraws` positions for energy cells. -/
def generateWithin (maxDraws : Nat) (source : DrawSource σ) (size : Int) (number : Int) : Drawing σ Level := do
  if size < minSize then throw .sizeTooSmall
  let size := size.toNat
  let energy ← scatterEnergy source size (energyCount number size) maxDraws []
  let kinds ← (obstacleKinds number).mapError LoadError.number
  let placed ← dropObstacles source size energy kinds []
  (Level.ofDraft (draft number size energy placed)).mapError LoadError.level

/-- How often it is drawn again where a draw does not fit, unless another bound is given. -/
def maxDraws : Nat := 1000000

/-- Generates the level of a number on a square. -/
def generate (source : DrawSource σ) (size : Int) (number : Int) : Drawing σ Level :=
  generateWithin maxDraws source size number

end Generator
end GridWalk
