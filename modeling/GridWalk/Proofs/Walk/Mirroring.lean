import GridWalk.Proofs.Walk.Draining
import GridWalk.Proofs.Walk.Soundness

/-! A machine mirrors a stepper: whatever it is called for, it answers as the stepper does, so its registers
    always hold together. -/

namespace GridWalk.Walk

/-- The registers hold what the stepper says; the unit steps that a walk left over are of no account. -/
inductive Mirrors : Stepper → Machine → Prop
  | untouched (ds : List Direction) : Mirrors .untouched ⟨none, ds, [], none, false⟩
  | resting (s : State) (ds : List Direction) : Mirrors (.resting s) ⟨some s, ds, [], none, false⟩
  | ready (s : State) (rest : List Move) : Mirrors (.ready s rest) ⟨some s, Move.strides rest, [], none, true⟩
  | queued (s : State) (e : Event) (rest : List Move) (h : e.kind ≠ .moved) :
    Mirrors (.queued s e rest h) ⟨some s, Move.strides rest, [e], none, true⟩
  | shown (s : State) (e : Event) (rest : List Move) :
    Mirrors (.shown s e rest) ⟨some s, Move.strides rest, [], some e, true⟩

/-- A machine with registers `m` answers as a stepper does: it mirrors the stepper afterwards, or it refuses
    for the same reason with its registers as they were. -/
inductive Agrees {α : Type} (m : Machine) :
    Except StepperError (α × Stepper) → EStateM.Result Machine.Fault Machine α → Prop
  | ok (a : α) {w' : Stepper} {m' : Machine} (h : Mirrors w' m') : Agrees m (.ok (a, w')) (.ok a m')
  | refused (e : StepperError) : Agrees m (.error e) (.error (.refused e) m)

variable {level : Level} {w : Stepper} {m : Machine} {s : State}

/-! ### Operations -/

theorem bind_of_ok {α β : Type} {act : Machine.Op α} {next : α → Machine.Op β} {a : α} {m' : Machine}
    (h : act m = .ok a m') : (act >>= next) m = next a m' := by
  change EStateM.bind act next m = next a m'
  rw [EStateM.bind, h]

/-- A machine walks on as a stepper does, and queues the event that the stepper shows. -/
theorem advance_registers (s : State) (moves : List Move) :
    Machine.advance level ⟨some s, Move.strides moves, [], none, true⟩ =
      .ok () ⟨some (Stepper.advance level s moves).1, Move.strides (Stepper.advance level s moves).2.2,
        [(Stepper.advance level s moves).2.1], none, true⟩ := by
  cases hds : Move.strides moves with
  | nil =>
    rw [Stepper.advance, takeStep_eq_none hds]
    rfl
  | cons d ds =>
    obtain ⟨rest, htake, rfl⟩ := takeStep_eq_some hds
    have hbranch : Machine.advance level ⟨some s, d :: Move.strides rest, [], none, true⟩ =
        (if level.contains (s.position + d.step) = true then
          (do Machine.writeState { s with position := s.position + d.step, stepsTaken := s.stepsTaken + 1 }
              Machine.emit .moved none : Machine.Op Unit)
        else Machine.finish .outOfBounds .failed) ⟨some s, Move.strides rest, [], none, true⟩ := rfl
    rw [Stepper.advance, htake, hbranch]
    by_cases hin : level.contains (s.position + d.step) = true
    · simp only [hin, if_true]
      rfl
    · simp only [hin]
      rfl

/-- On the grid a machine evaluates a cell as a stepper does. -/
theorem enterCell_mirrors (rest : List Move) (hin : level.contains s.position = true) :
    ∃ m', Machine.enterCell level ⟨some s, Move.strides rest, [], none, true⟩ = .ok () m' ∧
      Mirrors (Stepper.enter level s rest) m' := by
  obtain ⟨t, ht⟩ := Option.isSome_iff_exists.mp (Level.terrain?_isSome_iff.mpr hin)
  have hread : Machine.readState ⟨some s, Move.strides rest, [], none, true⟩ =
      .ok s ⟨some s, Move.strides rest, [], none, true⟩ := rfl
  rw [Stepper.enter, Machine.enterCell, bind_of_ok hread, ht]
  cases t with
  | safe => exact ⟨_, rfl, .ready s rest⟩
  | void | snake | energy => exact ⟨_, rfl, .queued _ _ rest _⟩
  | door =>
    by_cases hcharged : s.energized = true
    · simp only [hcharged, if_true]
      exact ⟨_, rfl, .queued _ _ rest _⟩
    · simp only [hcharged]
      exact ⟨_, rfl, .queued _ _ rest _⟩

theorem Mirrors.start (h : Mirrors w m) (moves : List Move) :
    Agrees m ((w.start level moves).map fun w => (none, w)) (Machine.call level (.start moves) m) := by
  cases h with
  | untouched | resting => exact .ok none (.ready _ moves)
  | ready | queued | shown => exact .refused .busy

theorem Mirrors.step (h : Mirrors w m) :
    Agrees m ((w.step level).map fun (e, w) => (some e, w)) (Machine.call level .step m) := by
  cases h with
  | untouched | resting => exact .refused .notWalking
  | shown s e rest => exact .refused (.unacknowledged e.kind)
  | queued s e rest hkind => exact .ok (some e) (.shown s e rest)
  | ready s moves =>
    have hstep : Machine.step level ⟨some s, Move.strides moves, [], none, true⟩ =
        (Machine.advance level >>= fun _ => do
          let e ← Machine.takeQueued
          modify fun m => { m with pending := some e }
          return e : Machine.Op Event) ⟨some s, Move.strides moves, [], none, true⟩ := rfl
    rw [bind_of_ok (advance_registers s moves)] at hstep
    have hcall : Machine.call level .step ⟨some s, Move.strides moves, [], none, true⟩ =
        (Machine.step level >>= fun e => pure (some e)) ⟨some s, Move.strides moves, [], none, true⟩ := rfl
    rw [hcall, bind_of_ok hstep]
    exact .ok _ (.shown _ _ _)

theorem Mirrors.acknowledge (h : Mirrors w m) (hs : w.Sound level) :
    Agrees m ((w.acknowledge level).map fun w => (none, w)) (Machine.call level .acknowledge m) := by
  cases h with
  | untouched | resting | ready | queued => exact .refused .nothingShown
  | shown s e rest =>
    have hbranch : Machine.call level .acknowledge ⟨some s, Move.strides rest, [], some e, true⟩ =
        ((if e.kind = .moved then Machine.enterCell level
          else if e.isFinal then modify fun m => { m with inFlight := false }
          else pure () : Machine.Op Unit) >>= fun _ => pure none : Machine.Op (Option Event))
          ⟨some s, Move.strides rest, [], none, true⟩ := rfl
    rw [hbranch, Stepper.acknowledge]
    by_cases hmoved : e.kind = .moved
    · obtain ⟨m', henter, hm'⟩ := enterCell_mirrors rest (hs.state s rfl).onGrid
      simp only [hmoved, if_true]
      rw [bind_of_ok henter]
      exact .ok none hm'
    · by_cases hfinal : e.isFinal = true
      · simp only [hmoved, hfinal, if_true, if_false]
        exact .ok none (.resting s _)
      · simp only [hmoved, hfinal, if_false]
        exact .ok none (.ready s rest)

theorem Mirrors.abort (h : Mirrors w m) : Agrees m (.ok (none, w.abort)) (Machine.call level .abort m) := by
  cases h with
  | untouched ds => exact .ok none (.untouched ds)
  | resting | ready | queued | shown => exact .ok none (.resting _ _)

/-! ### Calls -/

/-- A machine answers every call as the stepper does that it mirrors. -/
theorem Mirrors.call (h : Mirrors w m) (hs : w.Sound level) (c : Call) :
    Agrees m (w.call level c) (Machine.call level c m) := by
  cases c with
  | start moves => exact h.start moves
  | step => exact h.step
  | acknowledge => exact h.acknowledge hs
  | abort => exact h.abort

theorem Mirrors.afterCall (h : Mirrors w m) (hs : w.Sound level) (c : Call) :
    Mirrors (w.afterCall level c) (m.afterCall level c) := by
  have hagrees := h.call hs c
  rw [Stepper.afterCall, Machine.afterCall]
  generalize w.call level c = result at hagrees
  generalize Machine.call level c m = result' at hagrees
  cases hagrees with
  | ok a hm => exact hm
  | refused e => exact h

theorem Mirrors.foldl_afterCall (h : Mirrors w m) (hs : w.Sound level) (calls : List Call) :
    Mirrors (calls.foldl (Stepper.afterCall level) w) (calls.foldl (Machine.afterCall level) m) := by
  induction calls generalizing w m with
  | nil => exact h
  | cons c cs ih => exact ih (h.afterCall hs c) (hs.afterCall c)
/-! ### Registers -/

/-- The invariant of the registers. -/
structure Machine.Sound (level : Level) (m : Machine) : Prop where
  onGrid : ∀ s, m.state = some s → level.contains s.position = true
  charged : ∀ s, m.state = some s → (s.energized = true ↔ 0 < s.energyCollected)
  atMostOne : (m.queue ++ m.pending.toList).length ≤ 1
  idle : m.inFlight = false → m.queue = [] ∧ m.pending = none
  ended : ∀ s, m.inFlight = true → m.state = some s → s.outcome ≠ .running →
    ∃ e, m.queue ++ m.pending.toList = [e] ∧ e.isFinal = true ∧ e.outcome = s.outcome

theorem Mirrors.state_eq (h : Mirrors w m) : m.state = w.state? := by cases h <;> rfl

theorem Mirrors.inFlight_eq (h : Mirrors w m) : m.inFlight = w.inFlight := by cases h <;> rfl

theorem Mirrors.events_eq (h : Mirrors w m) : m.queue ++ m.pending.toList = w.pendingEvents := by cases h <;> rfl

theorem Mirrors.sound (h : Mirrors w m) (hs : w.Sound level) : m.Sound level where
  onGrid := fun s hstate => (hs.state s (h.state_eq ▸ hstate)).onGrid
  charged := fun s hstate => (hs.state s (h.state_eq ▸ hstate)).charged
  atMostOne := by
    cases h with
    | untouched | resting | ready => exact Nat.zero_le 1
    | queued | shown => exact Nat.le_refl 1
  idle := by
    intro hidle
    cases h with
    | untouched | resting => exact ⟨rfl, rfl⟩
    | ready | queued | shown => cases hidle
  ended := by
    intro s hfly hstate hne
    rw [h.events_eq]
    rw [h.inFlight_eq] at hfly
    rw [h.state_eq] at hstate
    have htold := hs.told s
    have hquiet := hs.quiet s hfly hstate
    cases w with
    | untouched | resting => cases hfly
    | ready => exact absurd (hquiet rfl) hne
    | queued _ e | shown _ e =>
      obtain ⟨hout, hfinal⟩ := htold e hstate rfl
      exact ⟨e, rfl, hfinal hne, hout⟩

/-- Whatever a machine was called for, its registers are sound. A further call that fails is refused and
    leaves them as they are: none asks for an event of an empty queue or for a cell off the grid. One that is
    answered and begins no walk takes at most one unit step and leaves a walk with an outcome as it is. -/
theorem Machine.sound_after_calls (level : Level) (calls : List Call) :
    let w := calls.foldl (Stepper.afterCall level) .untouched
    let m := calls.foldl (Machine.afterCall level) {}
    m.Sound level ∧ Mirrors w m ∧ ∀ c : Call,
      match Machine.call level c m with
      | .error fault m' => m' = m ∧ ∃ e, fault = .refused e
      | .ok _ m' => c.isStart = false → ∀ s, m.state = some s → ∃ t, m'.state = some t ∧ s.Follows t := by
  intro w m
  have hm : Mirrors w m := (Mirrors.untouched []).foldl_afterCall .untouched calls
  have hs : w.Sound level := Stepper.Sound.untouched.foldl_afterCall calls
  refine ⟨hm.sound hs, hm, fun c => ?_⟩
  have hagrees := hm.call hs c
  generalize hcall : w.call level c = result at hagrees
  generalize Machine.call level c m = result' at hagrees
  cases hagrees with
  | refused e => exact ⟨rfl, e, rfl⟩
  | ok a hm' =>
    intro hgoes s hstate
    obtain ⟨t, ht, hfollows⟩ := hs.call_follows hcall hgoes (hm.state_eq ▸ hstate)
    exact ⟨t, hm'.state_eq.trans ht, hfollows⟩

end GridWalk.Walk
