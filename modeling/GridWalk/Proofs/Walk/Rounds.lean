import GridWalk.Proofs.Walk.Draining

/-! The rounds of a walk in progress. A stepper that shows no event takes a step and shows its event, which can
    be acknowledged; then it shows none again. -/

namespace GridWalk.Walk.Stepper

/-- The event that is shown. -/
def shownEvent? : Stepper → Option Event
  | shown _ e _ => some e
  | _ => none

variable {level : Level} {w v : Stepper} {e : Event}

theorem shownEvent?_enter (s : State) (rest : List Move) : (enter level s rest).shownEvent? = none := by
  unfold enter
  split
  · rfl
  · rfl
  · rfl
  · split <;> rfl
  · rfl
  · rfl

/-- Only a stepper that shows an event acknowledges, and then it shows none. -/
theorem shownEvent?_of_acknowledge (h : w.acknowledge level = .ok v) :
    (∃ e, w.shownEvent? = some e) ∧ v.shownEvent? = none := by
  cases w with
  | untouched | resting | ready | queued => cases h
  | shown s e rest =>
    cases h
    refine ⟨⟨e, rfl⟩, ?_⟩
    split
    · exact shownEvent?_enter s rest
    · split <;> rfl

/-- Only a stepper that shows no event takes a step, and then it shows the event of the step. -/
theorem shownEvent?_of_step (h : w.step level = .ok (e, v)) : w.shownEvent? = none ∧ v.shownEvent? = some e := by
  cases w with
  | untouched | resting | shown => cases h
  | ready | queued =>
    cases h
    exact ⟨rfl, rfl⟩

/-- Only a walk in progress takes a step or shows an event. -/
theorem inFlight_of_step (h : w.step level = .ok (e, v)) : w.inFlight = true := by
  cases w with
  | untouched | resting | shown => cases h
  | ready | queued => rfl

theorem inFlight_of_shown (h : w.shownEvent? = some e) : w.inFlight = true := by
  cases w with
  | untouched | resting | ready | queued => cases h
  | shown => rfl

/-- What is shown can be acknowledged. -/
theorem acknowledge_of_shown (level : Level) (h : w.shownEvent? = some e) : ∃ v, w.acknowledge level = .ok v := by
  cases w with
  | untouched | resting | ready | queued => cases h
  | shown => exact ⟨_, rfl⟩

theorem pendingEvents_of_shown (h : w.shownEvent? = some e) : w.pendingEvents = [e] := by
  cases w with
  | untouched | resting | ready | queued => cases h
  | shown =>
    cases h
    rfl

/-- A walk in progress that shows no event goes on. -/
theorem exists_step (level : Level) (hfly : w.inFlight = true) (hnone : w.shownEvent? = none) :
    ∃ e v, w.step level = .ok (e, v) := by
  cases w with
  | untouched | resting => cases hfly
  | shown => cases hnone
  | ready | queued => exact ⟨_, _, rfl⟩

/-- A step is the first half of a round. -/
theorem round_of_step (h : w.step level = .ok (e, v)) :
    ∃ u, v.acknowledge level = .ok u ∧ w.round level = .ok (e, u) := by
  obtain ⟨u, hu⟩ := acknowledge_of_shown level (shownEvent?_of_step h).2
  refine ⟨u, hu, ?_⟩
  simp only [round, h, bind, Except.bind, hu]
  rfl

theorem idle_of_workLeft (h : w.workLeft ≤ 0) : w.inFlight = false := by
  cases w with
  | untouched | resting => rfl
  | ready | queued | shown => cases h

theorem eq_resting {s : State} (h : w.inFlight = false) (hs : w.state? = some s) : w = .resting s := by
  cases w with
  | untouched => cases hs
  | resting t =>
    cases hs
    rfl
  | ready | queued | shown => cases h

theorem inFlight_abort (w : Stepper) : w.abort.inFlight = false := by cases w <;> rfl

theorem abort_of_idle (h : w.inFlight = false) : w.abort = w := by
  cases w with
  | untouched | resting => rfl
  | ready | queued | shown => cases h

theorem drain_of_idle (h : w.inFlight = false) : w.drain level = ([], w) := by
  cases w with
  | untouched => exact drain_of_error rfl
  | resting s => exact drain_resting s
  | ready | queued | shown => cases h

end GridWalk.Walk.Stepper
