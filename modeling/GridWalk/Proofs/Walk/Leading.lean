import GridWalk.Proofs.Walk.Delivery

/-! The steppers that a walk goes through from its start to its end, by steps and acknowledgements alone. They stay
    sound, and where one of them is at rest, the walk has come to its end. -/

namespace GridWalk.Walk
namespace Stepper

/-- A walk goes on by one step or one acknowledgement. -/
inductive Proceeds (level : Level) (w v : Stepper) : Prop
  | step {e : Event} (h : w.step level = .ok (e, v))
  | acknowledge (h : w.acknowledge level = .ok v)

/-- The walk of moves leads from the start of the level to the stepper. -/
inductive OnWalk (level : Level) (moves : List Move) : Stepper → Prop
  | start : OnWalk level moves (.ready { position := level.start } moves)
  | proceed {w v : Stepper} (h : OnWalk level moves w) (hv : w.Proceeds level v) : OnWalk level moves v

variable {level : Level} {moves : List Move} {w v : Stepper} {s : State}

theorem Proceeds.finale_eq (h : w.Proceeds level v) : v.finale level = w.finale level := by
  cases h with
  | step h => exact (toCome_of_step h).2.symm
  | acknowledge h => exact (toCome_of_acknowledge h).2.symm

theorem Proceeds.sound (h : w.Proceeds level v) (hw : w.Sound level) (hwon : w.WonAtDoor level) :
    v.Sound level ∧ v.WonAtDoor level := by
  cases h with
  | step h => exact ⟨(step_kept hw h).1, hwon.step hw h⟩
  | acknowledge h => exact ⟨(acknowledge_kept hw h).1, hwon.acknowledge hw h⟩

theorem Proceeds.exists_state (h : w.Proceeds level v) (hw : w.Sound level) : ∃ s, v.state? = some s := by
  cases h with
  | step h =>
    obtain ⟨-, -, t, -, ht, -⟩ := step_kept hw h
    exact ⟨t, ht⟩
  | acknowledge h =>
    obtain ⟨-, -, t, -, ht, -⟩ := acknowledge_kept hw h
    exact ⟨t, ht⟩

namespace OnWalk

theorem sound (h : OnWalk level moves w) : w.Sound level ∧ w.WonAtDoor level := by
  induction h with
  | start => exact ⟨sound_ready (.initial level) rfl, .of_ne_victory rfl nofun⟩
  | proceed _ hv ih => exact hv.sound ih.1 ih.2

theorem exists_state (h : OnWalk level moves w) : ∃ s, w.state? = some s := by
  cases h with
  | start => exact ⟨_, rfl⟩
  | proceed h hv => exact hv.exists_state h.sound.1

theorem finale_eq (h : OnWalk level moves w) :
    w.finale level = (Stepper.ready { position := level.start } moves).finale level := by
  induction h with
  | start => rfl
  | proceed _ hv ih => exact hv.finale_eq.trans ih

/-- A walk that is over has come to where the whole walk of its moves ends. -/
theorem simulate_eq (h : OnWalk level moves w) (hidle : w.inFlight = false) : simulate level moves = w.state? := by
  have hend : (Stepper.ready { position := level.start } moves).finale level = w :=
    h.finale_eq.symm.trans (outstanding_of_idle level hidle).2
  have hwhole : simulate level moves = ((Stepper.ready { position := level.start } moves).finale level).state? := rfl
  rw [hwhole, hend]

end OnWalk

theorem shownEvent?_of_idle (h : w.inFlight = false) : w.shownEvent? = none := by
  cases w with
  | untouched | resting => rfl
  | ready | queued | shown => cases h

theorem pendingEvents_of_idle (h : w.inFlight = false) : w.pendingEvents = [] := by
  cases w with
  | untouched | resting => rfl
  | ready | queued | shown => cases h

theorem call_start_of_idle (level : Level) (moves : List Move) (h : w.inFlight = false) :
    w.call level (.start moves) = .ok (none, .ready { position := level.start } moves) := by
  rw [Stepper.call, Stepper.start, h]
  rfl

end Stepper
end GridWalk.Walk
