import GridWalk.Proofs.Walk.Plain
import GridWalk.Walk.Run

/-! What a whole walk shows from each state of its stepper, one equation for each kind of round. -/

namespace GridWalk.Walk

theorem strides_takeStep {moves rest : List Move} {d : Direction} (h : takeStep moves = some (d, rest)) :
    Move.strides moves = d :: Move.strides rest := by
  cases moves with
  | nil => cases h
  | cons m ms =>
    rw [takeStep] at h
    have hrep : List.replicate m.steps m.direction = m.direction :: List.replicate (m.steps - 1) m.direction := by
      rw [← List.replicate_succ, Nat.sub_add_cancel m.steps_pos]
    split at h
    · rename_i hone
      cases h
      rw [Move.strides_cons, hone]
      rfl
    · cases h
      rw [Move.strides_cons, Move.strides_cons, hrep]
      rfl

theorem takeStep_eq_none {moves : List Move} (h : Move.strides moves = []) : takeStep moves = none := by
  cases ht : takeStep moves with
  | none => rfl
  | some p =>
    rw [strides_takeStep ht] at h
    cases h

/-- The first unit step is taken, and the rest of the moves has the rest of the unit steps. -/
theorem takeStep_eq_some {moves : List Move} {d : Direction} {ds : List Direction}
    (h : Move.strides moves = d :: ds) : ∃ rest, takeStep moves = some (d, rest) ∧ Move.strides rest = ds := by
  cases ht : takeStep moves with
  | none =>
    cases moves with
    | nil => cases h
    | cons m ms =>
      rw [takeStep] at ht
      split at ht <;> cases ht
  | some p =>
    obtain ⟨c, rest⟩ := p
    rw [strides_takeStep ht] at h
    cases h
    exact ⟨rest, rfl, rfl⟩

namespace Stepper
variable {level : Level}

theorem drain_of_error {w : Stepper} {error : StepperError} (h : w.round level = .error error) :
    w.drain level = ([], w) := by
  rw [drain]
  split
  · rfl
  · rename_i h'
    rw [h] at h'
    cases h'

theorem drain_of_ok {w w' : Stepper} {e : Event} (h : w.round level = .ok (e, w')) :
    w.drain level = (e :: (w'.drain level).1, (w'.drain level).2) := by
  rw [drain]
  split
  · rename_i h'
    rw [h] at h'
    cases h'
  · rename_i h'
    rw [h] at h'
    cases h'
    rfl

theorem drain_resting (s : State) : (resting s).drain level = ([], resting s) := drain_of_error rfl

theorem drain_exhausted {s : State} {moves : List Move} (h : takeStep moves = none) :
    (ready s moves).drain level = ([s.event .exhausted none], resting s) := by
  have hround : (ready s moves).round level = .ok (s.event .exhausted none, resting s) := by
    simp only [round, step, advance, h]
    rfl
  rw [drain_of_ok hround, drain_resting]

theorem drain_outside {s : State} {moves rest : List Move} {d : Direction} (h : takeStep moves = some (d, rest))
    (hout : level.contains (s.position + d.step) = false) : (ready s moves).drain level =
      ([(finish s .outOfBounds .failed).2], resting (finish s .outOfBounds .failed).1) := by
  have hround : (ready s moves).round level =
      .ok ((finish s .outOfBounds .failed).2, resting (finish s .outOfBounds .failed).1) := by
    simp only [round, step, advance, h, hout]
    rfl
  rw [drain_of_ok hround, drain_resting]

/-- A unit step on the grid is shown before the cell that it enters is evaluated. -/
theorem drain_moved {s t : State} {moves rest : List Move} {d : Direction} (h : takeStep moves = some (d, rest))
    (hin : level.contains (s.position + d.step) = true)
    (ht : t = { s with position := s.position + d.step, stepsTaken := s.stepsTaken + 1 }) :
    (ready s moves).drain level =
      (t.event .moved none :: ((enter level t rest).drain level).1, ((enter level t rest).drain level).2) := by
  subst ht
  refine drain_of_ok ?_
  simp only [round, step, advance, h, hin]
  rfl

theorem drain_ending {s : State} {outcome : Outcome} {kind : EventKind} {rest : List Move} (h : kind ≠ .moved)
    (hfinal : kind.isFinal = true) : (ending s outcome kind rest h).drain level =
      ([(finish s outcome kind).2], resting (finish s outcome kind).1) := by
  have hround : (ending s outcome kind rest h).round level =
      .ok ((finish s outcome kind).2, resting (finish s outcome kind).1) := by
    have hkind : (finish s outcome kind).2.kind = kind := rfl
    have hlast : (finish s outcome kind).2.isFinal = true := hfinal
    simp only [round, ending, step, acknowledge, bind, Except.bind, pure, Except.pure, hkind, h, hlast, if_false,
      if_true]
  rw [drain_of_ok hround, drain_resting]

theorem drain_queued {s : State} {e : Event} {rest : List Move} (h : e.kind ≠ .moved) (hmore : e.isFinal = false) :
    (queued s e rest h).drain level = (e :: ((ready s rest).drain level).1, ((ready s rest).drain level).2) := by
  refine drain_of_ok ?_
  simp only [round, step, acknowledge, bind, Except.bind, pure, Except.pure, h, hmore, if_false]
  rfl

end Stepper
end GridWalk.Walk
