import GridWalk.Proofs.Level.Grid
import GridWalk.Proofs.Program.Unrolled
import GridWalk.Walk.Event

/-! The plain walk. The moves are taken apart into unit steps, which lead from place to place whatever lies
    on the way. The walk ends at the first place off the grid or with a cell that stops it; its events,
    its outcome and its energy are told from the places up to there, without any state. -/

namespace GridWalk

namespace Move

/-- A single unit step. -/
def unit (d : Direction) : Move := ⟨d, 1, Nat.one_pos⟩

/-- The directions of the unit steps of moves, in order. -/
def strides (moves : List Move) : List Direction := moves.flatMap fun m => List.replicate m.steps m.direction

theorem strides_cons (m : Move) (ms : List Move) :
    strides (m :: ms) = List.replicate m.steps m.direction ++ strides ms := List.flatMap_cons

@[simp] theorem length_strides (moves : List Move) : (strides moves).length = unitSteps moves := by
  induction moves with
  | nil => rfl
  | cons m ms ih => rw [strides_cons, List.length_append, List.length_replicate, ih, unitSteps_cons]

theorem unitSteps_pos {moves : List Move} (h : moves ≠ []) : 0 < unitSteps moves := by
  cases moves with
  | nil => exact absurd rfl h
  | cons m ms =>
    rw [unitSteps_cons]
    exact Nat.add_pos_left m.steps_pos _

theorem displacement_unit (d : Direction) : (unit d).displacement = d.step := Position.scale_one _

/-- A move leads where its unit steps lead one after the other. -/
theorem destination_replicate (start : Position) (d : Direction) (n : Nat) :
    destination start (List.replicate n (unit d)) = start + d.step.scale n := by
  induction n generalizing start with
  | zero =>
    rw [Int.natCast_zero, Position.scale_zero, Position.add_origin]
    rfl
  | succ n ih =>
    rw [List.replicate_succ, destination_cons, ih, displacement_unit, Position.add_assoc, Int.natCast_succ,
      Int.add_comm, Position.scale_add, Position.scale_one]

theorem destination_strides (start : Position) (moves : List Move) :
    destination start ((strides moves).map unit) = destination start moves := by
  induction moves generalizing start with
  | nil => rfl
  | cons m ms ih =>
    rw [strides_cons, List.map_append, List.map_replicate, destination_append, destination_replicate, ih]
    rfl

end Move

namespace Walk.Plain

section Definitions
variable (level : Level) (ds : List Direction)

/-- Where the first `i` unit steps lead from the start, whatever lies on the way. -/
def place (i : Nat) : Position := Move.destination level.start ((ds.take i).map Move.unit)

/-- A walk stops at a place off the grid and at a void, a snake or a door. -/
def stops (p : Position) : Bool :=
  !level.contains p || [some Terrain.void, some .snake, some .door].contains (level.terrain? p)

/-- The first unit step that leads to where the walk stops. -/
def firstStop? : Option Nat := (List.range' 1 ds.length).find? fun i => stops level (place level ds i)

/-- The number of unit steps made; a step off the grid is not made. -/
def stepsMade : Nat :=
  match firstStop? level ds with
  | none => ds.length
  | some k => if level.contains (place level ds k) then k else k - 1

/-- The number of the first `i` unit steps that lead to an energy cell. -/
def energy (i : Nat) : Nat := (List.range' 1 i).countP fun j => level.terrain? (place level ds j) = some .energy

/-- The place where the walk stops decides its outcome; a door opens if an energy cell was met before. -/
def outcome : Outcome :=
  match firstStop? level ds with
  | none => .running
  | some k =>
    match level.terrain? (place level ds k) with
    | some .void => .fellVoid
    | some .snake => .bittenSnake
    | some .door =>
      if (List.range' 1 (k - 1)).any fun i => level.terrain? (place level ds i) = some .energy then .victory
      else .needsEnergy
    | _ => .outOfBounds

/-- The state that the walk ends in. -/
def state : State where
  position := place level ds (stepsMade level ds)
  energized := 0 < energy level ds (stepsMade level ds)
  energyCollected := energy level ds (stepsMade level ds)
  outcome := outcome level ds
  stepsTaken := stepsMade level ds

/-- The kind of the event that ends a walk with an outcome. -/
def finalKind : Outcome → EventKind
  | .running => .exhausted
  | .victory => .victory
  | .needsEnergy => .doorLocked
  | .outOfBounds | .fellVoid | .bittenSnake => .failed

/-- The events of a unit step that is made. -/
def stepEvents (i : Nat) : List Event :=
  { kind := .moved, position := place level ds i, energyCollected := energy level ds (i - 1) } ::
    if level.terrain? (place level ds i) = some .energy then
      [{ kind := .collectedEnergy, position := place level ds i, energyCollected := energy level ds i }]
    else []

/-- The event that ends the walk. -/
def finalEvent : Event where
  kind := finalKind (outcome level ds)
  position := place level ds (stepsMade level ds)
  outcome := outcome level ds
  failure := (outcome level ds).failure?
  energyCollected := energy level ds (stepsMade level ds)

/-- The events of the walk. -/
def events : List Event :=
  (List.range' 1 (stepsMade level ds)).flatMap (stepEvents level ds) ++ [finalEvent level ds]

end Definitions

variable {level : Level} {ds : List Direction}

/-! ### Places -/

theorem place_succ {i : Nat} {d : Direction} {rest : List Direction} (h : ds.drop i = d :: rest) :
    place level ds (i + 1) = place level ds i + d.step := by
  have hget : ds[i]? = some d := by rw [← List.head?_drop, h, List.head?_cons]
  rw [place, List.take_add_one, hget, List.map_append, Move.destination_append]
  exact congrArg _ (Move.displacement_unit d)

theorem place_append {more : List Direction} {i : Nat} (hi : i ≤ ds.length) :
    place level (ds ++ more) i = place level ds i := by
  rw [place, List.take_append_of_le_length hi, place]

/-- All unit steps together lead where the moves lead. -/
theorem place_strides (moves : List Move) :
    place level (Move.strides moves) (Move.unitSteps moves) = Move.destination level.start moves := by
  rw [place, ← Move.length_strides, List.take_length, Move.destination_strides]

/-! ### Stops -/

theorem stops_of_outside {p : Position} (h : level.contains p = false) : stops level p = true := by
  rw [stops, h]
  rfl

theorem stops_of_terrain {p : Position} {t : Terrain} (h : level.terrain? p = some t) :
    stops level p = [Terrain.void, .snake, .door].contains t := by
  rw [stops, Level.contains_of_terrain h, h]
  cases t <;> rfl

theorem firstStop?_eq_some_iff {k : Nat} : firstStop? level ds = some k ↔
    stops level (place level ds k) = true ∧ (1 ≤ k ∧ k ≤ ds.length) ∧
      ∀ i, 1 ≤ i → i < k → stops level (place level ds i) = false := by
  rw [firstStop?, List.find?_range'_eq_some]
  simp only [List.mem_range'_1, Bool.not_eq_true', Nat.lt_one_add_iff]

theorem firstStop?_eq_none_iff : firstStop? level ds = none ↔
    ∀ i, 1 ≤ i → i ≤ ds.length → stops level (place level ds i) = false := by
  rw [firstStop?, List.find?_range'_eq_none]
  simp only [Bool.not_eq_true', Nat.lt_one_add_iff]

/-- A walk that stops has an outcome. -/
theorem outcome_ne_running (h : firstStop? level ds ≠ none) : outcome level ds ≠ .running := by
  rw [outcome]
  split
  · rename_i hnone
    exact absurd hnone h
  · split
    · decide
    · decide
    · split <;> decide
    · decide

theorem finalKind_ne_exhausted {o : Outcome} (h : o ≠ .running) : finalKind o ≠ .exhausted := by
  cases o with
  | running => exact absurd rfl h
  | _ => decide

theorem getLast?_events : (events level ds).getLast? = some (finalEvent level ds) := by
  rw [events, List.getLast?_concat]

/-! ### Energy -/

theorem energy_succ (i : Nat) : energy level ds (i + 1) =
    energy level ds i + if level.terrain? (place level ds (i + 1)) = some .energy then 1 else 0 := by
  rw [energy, List.range'_1_concat, List.countP_append, ← energy, Nat.add_comm 1 i]
  simp [List.countP_cons]

/-- Energy was collected exactly if an energy cell was met. -/
theorem energy_pos_iff {i : Nat} : 0 < energy level ds i ↔
    ((List.range' 1 i).any fun j => level.terrain? (place level ds j) = some .energy) = true := by
  rw [energy, List.countP_pos_iff, List.any_eq_true]

end Walk.Plain
end GridWalk
