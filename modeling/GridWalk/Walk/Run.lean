import GridWalk.Program.Unrolled
import GridWalk.Walk.Stepper

/-! # Whole walks

A whole walk shows and acknowledges events until it is over. -/

namespace GridWalk.Walk

theorem unitSteps_takeStep {moves rest : List Move} {d : Direction} (h : takeStep moves = some (d, rest)) :
    Move.unitSteps moves = Move.unitSteps rest + 1 := by
  cases moves with
  | nil => simp [takeStep] at h
  | cons m ms =>
    have := m.steps_pos
    simp only [takeStep] at h
    split at h <;> simp only [Option.some.injEq, Prod.mk.injEq] at h <;> obtain ⟨rfl, rfl⟩ := h <;>
      simp only [Move.unitSteps_cons] <;> omega

namespace Stepper

/-- Shows and acknowledges one event. -/
def round (level : Level) (w : Stepper) : Except StepperError (Event × Stepper) := do
  let (e, w) ← w.step level
  return (e, ← w.acknowledge level)

theorem workLeft_enter (level : Level) (s : State) (rest : List Move) :
    (enter level s rest).workLeft ≤ 2 * Move.unitSteps rest + 2 := by
  unfold enter
  split
  · exact Nat.le_refl _
  · exact Nat.le_refl _
  · exact Nat.le_refl _
  · split <;> exact Nat.le_refl _
  all_goals exact Nat.le_succ _

theorem workLeft_acknowledge {level : Level} {s : State} {e : Event} {rest : List Move} {w : Stepper}
    (h : (shown s e rest).acknowledge level = .ok w) :
    w.workLeft ≤ 2 * Move.unitSteps rest + (if e.kind = .moved then 2 else 1) := by
  simp only [acknowledge, Except.ok.injEq] at h
  subst h
  split
  · exact workLeft_enter level s rest
  · split
    · exact Nat.zero_le _
    · exact Nat.le_refl _

/-- An event that ends a walk leaves no work once it is acknowledged. -/
theorem workLeft_acknowledge_final {level : Level} {s : State} {e : Event} {rest : List Move} {w : Stepper}
    (he : e.isFinal = true) (h : (shown s e rest).acknowledge level = .ok w) : w.workLeft = 0 := by
  have hk : e.kind ≠ .moved := by intro hk; simp [Event.isFinal, hk, EventKind.isFinal] at he
  simp only [acknowledge, hk, if_false, he, if_true, Except.ok.injEq] at h
  subst h
  rfl

/-- What a step shows is final, or a unit step was taken. -/
theorem isFinal_advance (level : Level) (s : State) (moves : List Move) :
    (advance level s moves).2.1.isFinal = true ∨
      Move.unitSteps (advance level s moves).2.2 + 1 = Move.unitSteps moves := by
  unfold advance
  split
  · exact .inl rfl
  · rename_i d rest h
    by_cases hc : level.contains (s.position + d.step) = true
    · simp only [hc, if_true]
      exact .inr (unitSteps_takeStep h).symm
    · simp only [hc]
      exact .inl rfl

theorem round_eq_ok {level : Level} {w w' : Stepper} {e : Event} (h : w.round level = .ok (e, w')) :
    ∃ v, w.step level = .ok (e, v) ∧ v.acknowledge level = .ok w' := by
  simp only [round, bind, Except.bind, pure, Except.pure] at h
  split at h
  · simp at h
  · rename_i p hp
    split at h
    · simp at h
    · rename_i v hv
      simp only [Except.ok.injEq, Prod.mk.injEq] at h
      exact ⟨p.2, by rw [hp, ← h.1], by rw [hv, h.2]⟩

/-- A round leaves less work. -/
theorem workLeft_round {level : Level} {w w' : Stepper} {e : Event} (h : w.round level = .ok (e, w')) :
    w'.workLeft < w.workLeft := by
  obtain ⟨v, hs, ha⟩ := round_eq_ok h
  cases w with
  | untouched => simp [step] at hs
  | resting s => simp [step] at hs
  | shown s e rest => simp [step] at hs
  | queued s e' rest hk =>
    simp only [step, Except.ok.injEq, Prod.mk.injEq] at hs
    obtain ⟨rfl, rfl⟩ := hs
    have hw := workLeft_acknowledge ha
    rw [if_neg hk] at hw
    exact Nat.lt_succ_of_le hw
  | ready s moves =>
    simp only [step, Except.ok.injEq, Prod.mk.injEq] at hs
    obtain ⟨rfl, rfl⟩ := hs
    change w'.workLeft < 2 * Move.unitSteps moves + 1
    rcases isFinal_advance level s moves with hf | hr
    · rw [workLeft_acknowledge_final hf ha]
      exact Nat.succ_pos _
    · have hw := workLeft_acknowledge ha
      generalize (advance level s moves).2.2 = rest at hr hw
      split at hw <;> omega

/-- The events that are still to come, and the stepper after the last one. -/
def drain (level : Level) (w : Stepper) : List Event × Stepper :=
  match h : w.round level with
  | .error _ => ([], w)
  | .ok (e, w') =>
    have := workLeft_round h
    let (events, last) := drain level w'
    (e :: events, last)
termination_by w.workLeft

end Stepper

/-- The events of a walk and what came of it. -/
def whole (level : Level) (moves : List Move) : List Event × Option State :=
  match Stepper.untouched.start level moves with
  | .error _ => ([], none)
  | .ok w => ((w.drain level).1, (w.drain level).2.state?)

/-- The events of a walk of moves over a level. -/
def events (level : Level) (moves : List Move) : List Event := (whole level moves).1

/-- What comes of a walk of moves over a level. -/
def simulate (level : Level) (moves : List Move) : Option State := (whole level moves).2

end GridWalk.Walk
