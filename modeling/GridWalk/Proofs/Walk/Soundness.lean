import GridWalk.Proofs.Walk.Machine

/-! What every call keeps of a stepper. The walk stays on the grid and is charged exactly if it collected
    energy; once it has an outcome, the one event that waits or is shown is final and tells that outcome. A
    call that begins no walk takes at most one unit step. -/

namespace GridWalk.Walk

/-- The walk is on the grid, and charged exactly if it collected energy. -/
structure State.Sound (level : Level) (s : State) : Prop where
  onGrid : level.contains s.position = true
  charged : s.energized = true ↔ 0 < s.energyCollected

/-- The event tells the outcome of the walk, and it is final if there is one. -/
structure State.ToldBy (s : State) (e : Event) : Prop where
  outcome : e.outcome = s.outcome
  final : s.outcome ≠ .running → e.isFinal = true

/-- What a call may do to a walk: it takes at most one unit step and never uncharges the walk, and a walk
    with an outcome stays as it is. -/
structure State.Follows (s t : State) : Prop where
  place : (t.position = s.position ∧ t.stepsTaken = s.stepsTaken) ∨
    ∃ d : Direction, t.position = s.position + d.step ∧ t.stepsTaken = s.stepsTaken + 1
  energized : s.energized = true → t.energized = true
  stays : s.outcome ≠ .running → t = s

variable {level : Level} {s t : State}

namespace State

theorem Follows.refl (s : State) : s.Follows s := ⟨.inl ⟨rfl, rfl⟩, id, fun _ => rfl⟩

/-- While a walk has no outcome, any event of its state will do. -/
theorem toldBy_event (h : s.outcome = .running) (kind : EventKind) : s.ToldBy (s.event kind none) :=
  ⟨rfl, fun hne => absurd h hne⟩

/-- An event that is not final leaves the walk without an outcome. -/
theorem ToldBy.running {e : Event} (h : s.ToldBy e) (he : e.isFinal ≠ true) : s.outcome = .running :=
  Decidable.byContradiction fun hne => he (h.final hne)

theorem Sound.initial (level : Level) : Sound level { position := level.start } where
  onGrid := level.start_mem
  charged := by
    constructor
    · intro h
      cases h
    · intro h
      exact absurd h (Nat.lt_irrefl 0)

/-- Only the place and the energy matter. -/
theorem Sound.ended (h : s.Sound level) (o : Outcome) : Sound level { s with outcome := o } := ⟨h.onGrid, h.charged⟩

theorem Sound.charge (h : s.Sound level) :
    Sound level { s with energyCollected := s.energyCollected + 1, energized := true } where
  onGrid := h.onGrid
  charged := ⟨fun _ => Nat.succ_pos _, fun _ => rfl⟩

theorem Follows.ending (h : s.outcome = .running) (o : Outcome) : s.Follows { s with outcome := o } :=
  ⟨.inl ⟨rfl, rfl⟩, id, fun hne => absurd h hne⟩

theorem Follows.charging (h : s.outcome = .running) :
    s.Follows { s with energyCollected := s.energyCollected + 1, energized := true } :=
  ⟨.inl ⟨rfl, rfl⟩, fun _ => rfl, fun hne => absurd h hne⟩

theorem Follows.moving (h : s.outcome = .running) (d : Direction) :
    s.Follows { s with position := s.position + d.step, stepsTaken := s.stepsTaken + 1 } :=
  ⟨.inr ⟨d, rfl, rfl⟩, id, fun hne => absurd h hne⟩

end State

namespace Stepper

/-- The invariant of a stepper. -/
structure Sound (level : Level) (w : Stepper) : Prop where
  state : ∀ s, w.state? = some s → s.Sound level
  told : ∀ s e, w.state? = some s → w.pendingEvents = [e] → s.ToldBy e
  quiet : ∀ s, w.inFlight = true → w.state? = some s → w.pendingEvents = [] → s.outcome = .running

variable {w w' : Stepper} {e : Event} {rest : List Move}

theorem Sound.untouched : Sound level .untouched where
  state := by rintro s ⟨⟩
  told := by rintro s e ⟨⟩
  quiet := by rintro s ⟨⟩

theorem sound_resting (h : s.Sound level) : (resting s).Sound level where
  state := by
    rintro _ ⟨⟩
    exact h
  told := by rintro _ e - ⟨⟩
  quiet := by rintro _ ⟨⟩

theorem sound_ready (h : s.Sound level) (hrun : s.outcome = .running) : (ready s rest).Sound level where
  state := by
    rintro _ ⟨⟩
    exact h
  told := by rintro _ e - ⟨⟩
  quiet := by
    rintro _ - ⟨⟩ -
    exact hrun

/-- A stepper that holds an event is sound if the walk is and the event tells its outcome. -/
theorem Sound.holding (hstate : w.state? = some s) (he : w.pendingEvents = [e]) (hs : s.Sound level)
    (htold : s.ToldBy e) : w.Sound level where
  state := by
    intro t ht
    obtain rfl := Option.some.inj (hstate.symm.trans ht)
    exact hs
  told := by
    intro t f ht hf
    obtain rfl := Option.some.inj (hstate.symm.trans ht)
    obtain rfl : e = f := List.head_eq_of_cons_eq (he.symm.trans hf)
    exact htold
  quiet := by
    intro t _ _ hnil
    rw [he] at hnil
    cases hnil

/-! ### Operations -/

/-- A walk that goes on or ends here is sound, its event tells its outcome, and it took at most a unit step. -/
theorem advance_kept (moves : List Move) (hs : s.Sound level) (hrun : s.outcome = .running) :
    (advance level s moves).1.Sound level ∧ (advance level s moves).1.ToldBy (advance level s moves).2.1 ∧
      s.Follows (advance level s moves).1 := by
  unfold advance
  split
  · exact ⟨hs, State.toldBy_event hrun .exhausted, .refl s⟩
  · rename_i d rest _
    by_cases hin : level.contains (s.position + d.step) = true
    · rw [if_pos hin]
      exact ⟨⟨hin, hs.charged⟩, ⟨rfl, fun hne => absurd hrun hne⟩, .moving hrun d⟩
    · rw [if_neg hin]
      exact ⟨hs.ended _, ⟨rfl, fun _ => rfl⟩, .ending hrun _⟩

theorem ending_kept {o : Outcome} {kind : EventKind} (hkind : kind ≠ .moved) (hs : s.Sound level)
    (hrun : s.outcome = .running) (hfinal : kind.isFinal = true) : (ending s o kind rest hkind).Sound level ∧
      ∃ t, (ending s o kind rest hkind).state? = some t ∧ s.Follows t :=
  ⟨.holding rfl rfl (hs.ended o) ⟨rfl, fun _ => hfinal⟩, _, rfl, .ending hrun o⟩

theorem enter_kept (rest : List Move) (hs : s.Sound level) (hrun : s.outcome = .running) :
    (enter level s rest).Sound level ∧ ∃ t, (enter level s rest).state? = some t ∧ s.Follows t := by
  unfold enter
  split
  · exact ending_kept _ hs hrun rfl
  · exact ending_kept _ hs hrun rfl
  · exact ⟨.holding rfl rfl hs.charge ⟨rfl, fun hne => absurd hrun hne⟩, _, rfl, .charging hrun⟩
  · split
    · exact ending_kept _ hs hrun rfl
    · exact ending_kept _ hs hrun rfl
  · exact ⟨sound_ready hs hrun, s, rfl, .refl s⟩
  · exact ⟨sound_ready hs hrun, s, rfl, .refl s⟩

theorem step_kept (h : w.Sound level) (hw : w.step level = .ok (e, w')) :
    w'.Sound level ∧ ∃ s t, w.state? = some s ∧ w'.state? = some t ∧ s.Follows t := by
  cases w with
  | untouched => cases hw
  | resting s => cases hw
  | shown s e rest => cases hw
  | queued s e rest hkind =>
    cases hw
    exact ⟨.holding rfl rfl (h.state s rfl) (h.told s e rfl rfl), s, s, rfl, rfl, .refl s⟩
  | ready s moves =>
    cases hw
    obtain ⟨hsound, htold, hfollows⟩ := advance_kept moves (h.state s rfl) (h.quiet s rfl rfl rfl)
    exact ⟨.holding rfl rfl hsound htold, s, _, rfl, rfl, hfollows⟩

theorem acknowledge_kept (h : w.Sound level) (hw : w.acknowledge level = .ok w') :
    w'.Sound level ∧ ∃ s t, w.state? = some s ∧ w'.state? = some t ∧ s.Follows t := by
  cases w with
  | untouched | resting s | queued s e rest hkind | ready s moves => cases hw
  | shown s e rest =>
    cases hw
    have hs := h.state s rfl
    have htold : s.ToldBy e := h.told s e rfl rfl
    by_cases hmoved : e.kind = .moved
    · rw [if_pos hmoved]
      have hrun : s.outcome = .running := htold.running fun hfinal => by
        rw [Event.isFinal, hmoved] at hfinal
        cases hfinal
      obtain ⟨hsound, t, ht, hfollows⟩ := enter_kept rest hs hrun
      exact ⟨hsound, s, t, rfl, ht, hfollows⟩
    · rw [if_neg hmoved]
      by_cases hfinal : e.isFinal = true
      · rw [if_pos hfinal]
        exact ⟨sound_resting hs, s, s, rfl, rfl, .refl s⟩
      · rw [if_neg hfinal]
        exact ⟨sound_ready hs (htold.running hfinal), s, s, rfl, rfl, .refl s⟩

theorem state?_abort (w : Stepper) : w.abort.state? = w.state? := by cases w <;> rfl

theorem abort_kept (h : w.Sound level) : w.abort.Sound level where
  state := fun s hs => h.state s (w.state?_abort ▸ hs)
  told := by
    intro s e _ he
    cases w <;> cases he
  quiet := by
    intro s hfly
    cases w <;> cases hfly

/-! ### Calls -/

theorem ok_of_map_eq_ok {ε α β : Type} {f : α → β} {x : Except ε α} {b : β} (h : x.map f = .ok b) :
    ∃ a, x = .ok a ∧ f a = b := by
  cases x with
  | error e => cases h
  | ok a => exact ⟨a, rfl, Except.ok.inj h⟩

/-- What a call that is answered did. -/
theorem call_eq_ok {c : Call} {a : Option Event} (h : w.call level c = .ok (a, w')) :
    (∃ moves, c = .start moves ∧ a = none ∧ w.start level moves = .ok w') ∨
      (∃ e, c = .step ∧ a = some e ∧ w.step level = .ok (e, w')) ∨
      (c = .acknowledge ∧ a = none ∧ w.acknowledge level = .ok w') ∨ (c = .abort ∧ a = none ∧ w' = w.abort) := by
  cases c with
  | start moves =>
    obtain ⟨v, hv, ⟨⟩⟩ := ok_of_map_eq_ok h
    exact .inl ⟨moves, rfl, rfl, hv⟩
  | step =>
    obtain ⟨v, hv, ⟨⟩⟩ := ok_of_map_eq_ok h
    exact .inr (.inl ⟨v.1, rfl, rfl, hv⟩)
  | acknowledge =>
    obtain ⟨v, hv, ⟨⟩⟩ := ok_of_map_eq_ok h
    exact .inr (.inr (.inl ⟨rfl, rfl, hv⟩))
  | abort =>
    cases h
    exact .inr (.inr (.inr ⟨rfl, rfl, rfl⟩))

/-- A call that begins no walk takes at most one unit step. -/
theorem Sound.call_follows {c : Call} {a : Option Event} (h : w.Sound level) (hc : w.call level c = .ok (a, w'))
    (hgoes : c.isStart = false) (hs : w.state? = some s) : ∃ t, w'.state? = some t ∧ s.Follows t := by
  rcases call_eq_ok hc with ⟨moves, rfl, -, -⟩ | ⟨e, rfl, -, hstep⟩ | ⟨rfl, -, hack⟩ | ⟨rfl, -, rfl⟩
  · cases hgoes
  · obtain ⟨-, s', t, hs', ht, hfollows⟩ := step_kept h hstep
    obtain rfl := Option.some.inj (hs'.symm.trans hs)
    exact ⟨t, ht, hfollows⟩
  · obtain ⟨-, s', t, hs', ht, hfollows⟩ := acknowledge_kept h hack
    obtain rfl := Option.some.inj (hs'.symm.trans hs)
    exact ⟨t, ht, hfollows⟩
  · exact ⟨s, w.state?_abort.trans hs, .refl s⟩

theorem Sound.call {c : Call} {a : Option Event} (h : w.Sound level) (hc : w.call level c = .ok (a, w')) :
    w'.Sound level := by
  rcases call_eq_ok hc with ⟨moves, -, -, hstart⟩ | ⟨e, -, -, hstep⟩ | ⟨-, -, hack⟩ | ⟨-, -, rfl⟩
  · rw [start] at hstart
    split at hstart
    · cases hstart
    · cases hstart
      exact sound_ready (.initial level) rfl
  · exact (step_kept h hstep).1
  · exact (acknowledge_kept h hack).1
  · exact abort_kept h

theorem Sound.afterCall (h : w.Sound level) (c : Call) : (w.afterCall level c).Sound level := by
  rw [Stepper.afterCall]
  split
  · rename_i hc
    exact h.call hc
  · exact h

/-- A stepper is sound whatever it was called for. -/
theorem Sound.foldl_afterCall (h : w.Sound level) (calls : List Call) :
    (calls.foldl (Stepper.afterCall level) w).Sound level := by
  induction calls generalizing w with
  | nil => exact h
  | cons c cs ih => exact ih (h.afterCall c)

/-! ### Victories -/

/-- A walk that was won stands on a door and is charged. -/
def WonAtDoor (level : Level) (w : Stepper) : Prop :=
  ∀ s, w.state? = some s → s.outcome = .victory → level.terrain? s.position = some .door ∧ s.energized = true

theorem WonAtDoor.of_ne_victory (hs : w.state? = some s) (hne : s.outcome ≠ .victory) : w.WonAtDoor level := by
  intro t ht hwon
  obtain rfl := Option.some.inj (hs.symm.trans ht)
  exact absurd hwon hne

theorem WonAtDoor.of_state (h : w.WonAtDoor level) (hs : w'.state? = w.state?) : w'.WonAtDoor level := by
  intro s hs'
  exact h s (hs.symm.trans hs')

theorem advance_ne_victory (moves : List Move) (hrun : s.outcome = .running) :
    (advance level s moves).1.outcome ≠ .victory := by
  have hne : s.outcome ≠ .victory := by
    rw [hrun]
    decide
  unfold advance
  split
  · exact hne
  · dsimp only
    split
    · exact hne
    · exact nofun

theorem WonAtDoor.step (h : w.WonAtDoor level) (hsound : w.Sound level) (hw : w.step level = .ok (e, w')) :
    w'.WonAtDoor level := by
  cases w with
  | untouched | resting | shown => cases hw
  | queued s e rest hkind =>
    cases hw
    exact h.of_state rfl
  | ready s moves =>
    cases hw
    exact .of_ne_victory rfl (advance_ne_victory moves (hsound.quiet s rfl rfl rfl))

theorem wonAtDoor_enter (rest : List Move) (hrun : s.outcome = .running) : (enter level s rest).WonAtDoor level := by
  have hne : s.outcome ≠ .victory := by
    rw [hrun]
    decide
  unfold enter
  split
  · exact .of_ne_victory rfl nofun
  · exact .of_ne_victory rfl nofun
  · exact .of_ne_victory rfl hne
  · rename_i hdoor
    split
    · rename_i hcharged
      rintro _ ⟨⟩ -
      exact ⟨hdoor, hcharged⟩
    · exact .of_ne_victory rfl nofun
  · exact .of_ne_victory rfl hne
  · exact .of_ne_victory rfl hne

theorem WonAtDoor.acknowledge (h : w.WonAtDoor level) (hsound : w.Sound level) (hw : w.acknowledge level = .ok w') :
    w'.WonAtDoor level := by
  cases w with
  | untouched | resting | queued | ready => cases hw
  | shown s e rest =>
    cases hw
    have htold : s.ToldBy e := hsound.told s e rfl rfl
    by_cases hmoved : e.kind = .moved
    · rw [if_pos hmoved]
      refine wonAtDoor_enter rest (htold.running fun hfinal => ?_)
      rw [Event.isFinal, hmoved] at hfinal
      cases hfinal
    · rw [if_neg hmoved]
      split
      · exact h.of_state rfl
      · exact h.of_state rfl

end Stepper
end GridWalk.Walk
