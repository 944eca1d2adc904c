import GridWalk.Proofs.Visit.Submission

/-! Histories of visits. A history leads from one state of a visit and its surroundings to another by what happens
    to the visit, one thing at a time, also where calls are made from within each other. No history breaks what
    holds of every visit, and a flag of a visit tells what happened since it was last begun anew. -/

namespace GridWalk

open Walk (Stepper Event)

variable {σ : Type} {env : Surroundings σ}

/-! ### Recordings -/

/-- What comes of recording something: nothing where no records are kept. Elsewhere a record is made of the whole
    part of the elapsed seconds, if they have one, and it is taken or refused. -/
inductive Surroundings.Recording (env : Surroundings σ) (record : Int → Record) (elapsed : Number) (w : σ) :
    Except VisitError (Option Record) → σ → Prop
  | unkept (h : env.keepsRecords w = false) : Recording env record elapsed w (.ok none) w
  | uncounted {error : NumberError} (h : env.keepsRecords w = true) (htime : elapsed.truncate = .error error) :
    Recording env record elapsed w (.error (.number error)) w
  | taken {time : Int} (h : env.keepsRecords w = true) (htime : elapsed.truncate = .ok time)
    (htaken : (env.record (record time) w).1 = .ok ()) :
    Recording env record elapsed w (.ok (some (record time))) (env.record (record time) w).2
  | refused {time : Int} {error : RecorderError} (h : env.keepsRecords w = true) (htime : elapsed.truncate = .ok time)
    (hrefused : (env.record (record time) w).1 = .error error) :
    Recording env record elapsed w (.error (.recorder error)) (env.record (record time) w).2

/-- What is recorded is a record of the whole part of the elapsed seconds, if anything. -/
theorem Surroundings.Recording.passage {record : Int → Record} {elapsed : Number} {w w' : σ}
    {result : Except VisitError (Option Record)} (h : env.Recording record elapsed w result w') :
    ∃ rs, env.Passage w [] rs [] w' ∧ ∀ r ∈ rs, ∃ time, elapsed.truncate = .ok time ∧ r = record time := by
  cases h with
  | unkept | uncounted => exact ⟨[], .refl w, nofun⟩
  | @taken time _ htime | @refused time _ _ htime =>
    refine ⟨[record time], .recorded _ (.refl _), fun r hr => ⟨time, htime, ?_⟩⟩
    exact List.mem_singleton.mp hr

namespace Visit
open Surroundings (Recording)

theorem keepRecord_recording (env : Surroundings σ) (success : Bool) (commandsUsed : Nat) (elapsed : Number)
    (energized : Bool) (v : Visit) (w : σ) :
    ∃ result w', keepRecord env success commandsUsed elapsed energized (v, w) = (result, v, w') ∧
      Recording env (fun timeTaken => { level := v.level.number, commandsUsed, timeTaken, energized, success })
        elapsed w result w' := by
  rw [keepRecord, Act.outside_bind_apply]
  cases hkeeps : env.keepsRecords w with
  | false => exact ⟨_, w, rfl, .unkept hkeeps⟩
  | true =>
    rw [if_pos rfl, Act.visit_bind_apply]
    cases htime : elapsed.truncate with
    | error error => exact ⟨_, w, rfl, .uncounted hkeeps htime⟩
    | ok time =>
      rw [Act.lift, Act.pure_bind_apply, Act.outside_bind_apply]
      cases hrecord : (env.record { level := v.level.number, commandsUsed, timeTaken := time, energized, success } w).1 with
      | ok => exact ⟨_, _, rfl, .taken hkeeps htime hrecord⟩
      | error error => exact ⟨_, _, rfl, .refused hkeeps htime hrecord⟩

/-- The record that the player left. -/
def departure (v : Visit) (timeTaken : Int) (energized : Bool) : Record :=
  { level := v.level.number, commandsUsed := v.lastCommands, timeTaken, energized, success := false }

/-! ### Happenings -/

/-- What happens to a visit. -/
inductive Happening
  /-- Time was found to be up, on a level completed before or not. -/
  | timeUp (now : Number) (completed : Bool)
  /-- A walk in progress was given up. -/
  | aborted
  /-- A walk was broken off from within. -/
  | interrupted
  | renewed
  /-- A program of so many terms was accepted. -/
  | accepted (terms : Nat)
  | begun (moves : List Move)
  | shown (e : Event)
  | acknowledged
  /-- A walk came to its end without completing the level. -/
  | landed (s : Walk.State)
  /-- A walk completed the level, and this came of recording it. -/
  | won (s : Walk.State) (recording : Except VisitError (Option Record))
  /-- The player left, and this came of recording it. -/
  | left (recording : Except VisitError (Option Record))

/-- The last walk submitted is in the state `s`, and nothing but the walk itself has come of it so far. -/
structure Tracks (v : Visit) (s : Walk.State) : Prop where
  state : v.stepper.state? = some s
  walk : v.lastWalk = some s
  new : v.completed = false
  early : v.timedOut = false

/-- How a visit changes by itself. -/
inductive Change (v : Visit) : Happening → Visit → Prop
  | timeUp (now : Number) (hearly : v.timedOut = false) (hlate : v.isOverdue now = true) :
    Change v (.timeUp now v.completed) v.overdue
  | aborted : Change v .aborted v.aborted
  | interrupted (hfly : v.stepper.inFlight = true) :
    Change v .interrupted { v.aborted with position := v.level.start }
  | renewed : Change v .renewed v.renewed
  | accepted (terms : Nat) : Change v (.accepted terms) { v with lastCommands := terms }
  | begun (moves : List Move) (hidle : v.stepper.inFlight = false) (hnew : v.completed = false)
    (htime : v.timedOut = false) : Change v (.begun moves) (v.walking (.ready { position := v.level.start } moves))
  | shown {e : Event} {st : Stepper} (h : v.stepper.step v.level = .ok (e, st)) : Change v (.shown e) (v.walking st)
  | acknowledged {st : Stepper} (h : v.stepper.acknowledge v.level = .ok st) : Change v .acknowledged (v.walking st)
  | landed {s : Walk.State} (hidle : v.stepper.inFlight = false) (htracks : v.Tracks s)
    (hlost : s.outcome ≠ .victory) :
    Change v (.landed s) { v with position := if s.outcome.isHazard then v.level.start else s.position }

/-- One thing that happens to a visit among its surroundings. -/
inductive Turn (env : Surroundings σ) : Visit × σ → Happening → Visit × σ → Prop
  | changed {v v' : Visit} {a : Happening} (h : v.Change a v') (w : σ) : Turn env (v, w) a (v', w)
  | won {v : Visit} {w w' : σ} {s : Walk.State} {elapsed : Number} {recording : Except VisitError (Option Record)}
    (hidle : v.stepper.inFlight = false) (htracks : v.Tracks s) (hvictory : s.outcome = .victory)
    (h : Recording env (v.completion v.lastCommands · s) elapsed w recording w') :
    Turn env (v, w) (.won s recording) ({ v with completed := true, position := s.position }, w')
  | left {v : Visit} {w w' : σ} {energized : Bool} {elapsed : Number} {recording : Except VisitError (Option Record)}
    (h : Recording env (v.departure · energized) elapsed w recording w') :
    Turn env (v, w) (.left recording) (v, w')

/-- Things happen one after the other, while events are displayed, the clock is read and entries are made. -/
inductive History (env : Surroundings σ) : Visit × σ → List Happening → Visit × σ → Prop
  | refl (s : Visit × σ) : History env s [] s
  | passed {v : Visit} {w w' : σ} {es : List Event} {ts : List (Option Number)} {hs : List Happening} {s' : Visit × σ}
    (p : env.Passage w es [] ts w') (h : History env (v, w') hs s') : History env (v, w) hs s'
  | turned {s s' s'' : Visit × σ} {a : Happening} {hs : List Happening} (t : Turn env s a s')
    (h : History env s' hs s'') : History env s (a :: hs) s''

variable {v v' : Visit} {s s' s'' : Visit × σ} {a : Happening} {hs hs' : List Happening}

theorem History.trans (h : History env s hs s') (h' : History env s' hs' s'') : History env s (hs ++ hs') s'' := by
  induction h with
  | refl s => exact h'
  | passed p _ ih => exact .passed p (ih h')
  | turned t _ ih => exact .turned t (ih h')

/-- What one happening keeps, a history keeps. -/
theorem History.keeps {P : Visit → Prop}
    (hturn : ∀ {s s' : Visit × σ} {a : Happening}, Turn env s a s' → P s.1 → P s'.1)
    (h : History env s hs s') (hs : P s.1) : P s'.1 := by
  induction h with
  | refl s => exact hs
  | passed p _ ih => exact ih hs
  | turned t _ ih => exact ih (hturn t hs)

/-! ### What always holds of a visit -/

/-- The last walk, in the state `s`, was won at a door, where the character still is if time is not up. -/
structure WonBy (v : Visit) (s : Walk.State) : Prop where
  walk : v.lastWalk = some s
  victory : s.outcome = .victory
  charged : s.energized = true
  door : v.level.terrain? s.position = some .door
  position : v.position = if v.timedOut then v.level.start else s.position

/-- The invariant of visits. -/
structure Sound (v : Visit) : Prop where
  stepper : v.stepper.Sound v.level
  wonAtDoor : v.stepper.WonAtDoor v.level
  /-- There is no walk on a level that is completed or timed out. -/
  walking : v.stepper.inFlight = true → v.completed = false ∧ v.timedOut = false
  completed : v.completed = true → ∃ s, v.WonBy s

theorem Sound.fresh (level : Level) (requireComma : Bool) : Sound { level, requireComma } where
  stepper := .untouched
  wonAtDoor := nofun
  walking := nofun
  completed := nofun

theorem Sound.of_step {e : Event} {st : Stepper} (hv : v.Sound) (h : v.stepper.step v.level = .ok (e, st)) :
    v.completed = false ∧ v.timedOut = false := hv.walking (Stepper.inFlight_of_step h)

theorem Sound.of_acknowledge {st : Stepper} (hv : v.Sound) (h : v.stepper.acknowledge v.level = .ok st) :
    v.completed = false ∧ v.timedOut = false := by
  obtain ⟨⟨e, hshown⟩, -⟩ := Stepper.shownEvent?_of_acknowledge h
  exact hv.walking (Stepper.inFlight_of_shown hshown)

/-- A walk goes on, where neither is the level completed nor time up. -/
theorem Sound.goesOn {st : Stepper} (hst : st.Sound v.level) (hdoor : st.WonAtDoor v.level)
    (hrest : v.completed = false ∧ v.timedOut = false) : (v.walking st).Sound where
  stepper := hst
  wonAtDoor := hdoor
  walking _ := hrest
  completed hdone := absurd (hrest.1.symm.trans hdone) Bool.false_ne_true

/-- Giving up the walk keeps what holds of a visit, wherever the character is put. -/
theorem Sound.stopped (h : v.Sound) (hstepper : v'.stepper = v.stepper.abort) (hlevel : v'.level = v.level)
    (hdone : v'.completed = true → ∃ s, v'.WonBy s) : v'.Sound where
  stepper := by
    rw [hstepper, hlevel]
    exact Stepper.abort_kept h.stepper
  wonAtDoor := by
    rw [hstepper, hlevel]
    exact h.wonAtDoor.of_state v.stepper.state?_abort
  walking hfly := by
    rw [hstepper, Stepper.inFlight_abort] at hfly
    cases hfly
  completed := hdone

theorem Change.level_eq (h : v.Change a v') : v'.level = v.level := by
  cases h <;> rfl

theorem Change.sound (h : v.Change a v') (hv : v.Sound) : v'.Sound := by
  cases h with
  | timeUp now hearly hlate =>
    refine hv.stopped rfl rfl fun hdone => ?_
    obtain ⟨s, hwon⟩ := hv.completed hdone
    exact ⟨s, hwon.walk, hwon.victory, hwon.charged, hwon.door, rfl⟩
  | aborted =>
    refine hv.stopped rfl rfl fun hdone => ?_
    obtain ⟨s, hwon⟩ := hv.completed hdone
    exact ⟨s, hwon.walk, hwon.victory, hwon.charged, hwon.door, hwon.position⟩
  | interrupted hfly =>
    exact hv.stopped rfl rfl fun hdone => absurd ((hv.walking hfly).1.symm.trans hdone) Bool.false_ne_true
  | renewed => exact hv.stopped rfl rfl nofun
  | accepted terms =>
    refine ⟨hv.stepper, hv.wonAtDoor, hv.walking, fun hdone => ?_⟩
    obtain ⟨s, hwon⟩ := hv.completed hdone
    exact ⟨s, hwon.walk, hwon.victory, hwon.charged, hwon.door, hwon.position⟩
  | begun moves hidle hnew htime =>
    exact .goesOn (Stepper.sound_ready (.initial v.level) rfl) (.of_ne_victory rfl nofun) ⟨hnew, htime⟩
  | shown h =>
    exact .goesOn (Stepper.step_kept hv.stepper h).1 (hv.wonAtDoor.step hv.stepper h) (hv.of_step h)
  | acknowledged h =>
    exact .goesOn (Stepper.acknowledge_kept hv.stepper h).1 (hv.wonAtDoor.acknowledge hv.stepper h) (hv.of_acknowledge h)
  | landed hidle htracks hlost =>
    exact ⟨hv.stepper, hv.wonAtDoor, hv.walking, fun hdone => absurd (htracks.new.symm.trans hdone) Bool.false_ne_true⟩

theorem Turn.level_eq (t : Turn env s a s') : s'.1.level = s.1.level := by
  cases t with
  | changed h => exact h.level_eq
  | won => rfl
  | left => rfl

theorem Turn.sound (t : Turn env s a s') (hs : s.1.Sound) : s'.1.Sound := by
  cases t with
  | changed h => exact h.sound hs
  | left => exact hs
  | @won v _ _ s _ _ hidle htracks hvictory h =>
    have hgrounded : ∀ {P : Prop}, v.stepper.inFlight = true → P := fun hfly =>
      absurd (hidle.symm.trans hfly) Bool.false_ne_true
    obtain ⟨hdoor, hcharged⟩ := hs.wonAtDoor s htracks.state hvictory
    refine ⟨hs.stepper, hs.wonAtDoor, hgrounded, fun _ => ⟨s, htracks.walk, hvictory, hcharged, hdoor, ?_⟩⟩
    change s.position = if v.timedOut then v.level.start else s.position
    rw [htracks.early]
    rfl

theorem History.level_eq (h : History env s hs s') : s'.1.level = s.1.level :=
  h.keeps (P := fun v => v.level = s.1.level) (fun t ht => t.level_eq.trans ht) rfl

theorem History.sound (h : History env s hs s') (hs : s.1.Sound) : s'.1.Sound := h.keeps Turn.sound hs

/-! ### Flags and what set them -/

/-- Something of the kind happened since the visit was last begun anew. -/
def Lately (P : Happening → Prop) (hs : List Happening) : Prop :=
  ∃ past a later, hs = past ++ a :: later ∧ P a ∧ Happening.renewed ∉ later

theorem Lately.mono {P Q : Happening → Prop} (h : Lately P hs) (himp : ∀ a, P a → Q a) : Lately Q hs := by
  obtain ⟨past, a, later, heq, ha, hlater⟩ := h
  exact ⟨past, a, later, heq, himp a ha, hlater⟩

theorem not_lately_nil (P : Happening → Prop) : ¬Lately P [] := by
  rintro ⟨past, a, later, hnil, -⟩
  exact List.append_ne_nil_of_right_ne_nil past (List.cons_ne_nil a later) hnil.symm

theorem lately_cons {P : Happening → Prop} :
    Lately P (a :: hs) ↔ Lately P hs ∨ (P a ∧ Happening.renewed ∉ hs) := by
  constructor
  · rintro ⟨past, b, later, heq, hb, hlater⟩
    cases past with
    | nil =>
      obtain ⟨rfl, rfl⟩ := List.cons_eq_cons.mp heq
      exact .inr ⟨hb, hlater⟩
    | cons c past =>
      obtain ⟨-, rfl⟩ := List.cons_eq_cons.mp heq
      exact .inl ⟨past, b, later, rfl, hb, hlater⟩
  · rintro (⟨past, b, later, rfl, hb, hlater⟩ | ⟨ha, hhs⟩)
    · exact ⟨a :: past, b, later, rfl, hb, hlater⟩
    · exact ⟨[], a, hs, rfl, ha, hhs⟩

/-- A flag that some happenings set and only beginning anew takes back tells whether one of them happened lately. -/
theorem History.flag_iff (flag : Visit → Prop) (P : Happening → Prop)
    (hturn : ∀ {s s' : Visit × σ} {a : Happening}, Turn env s a s' → s.1.Sound →
      (flag s'.1 ↔ P a ∨ (flag s.1 ∧ a ≠ .renewed)))
    (h : History env s hs s') (hsound : s.1.Sound) :
    flag s'.1 ↔ Lately P hs ∨ (flag s.1 ∧ Happening.renewed ∉ hs) := by
  induction h with
  | refl s =>
    have hnil : Happening.renewed ∉ ([] : List Happening) := List.not_mem_nil
    simp only [not_lately_nil, false_or, hnil, not_false_eq_true, and_true]
  | passed p _ ih => exact ih hsound
  | turned t _ ih =>
    rw [ih (t.sound hsound), hturn t hsound, lately_cons, List.mem_cons, not_or, ne_comm, or_and_right, or_assoc,
      and_assoc]

end Visit
end GridWalk
