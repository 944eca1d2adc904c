import GridWalk.Proofs.Visit.Answers
import GridWalk.Proofs.Visit.Serving

/-! When a level counts as completed, whatever a visit is called for and whatever its surroundings do. A victory
    completes the level whether its record is taken or not, until the visit is begun anew. Time that is found to be
    up later sends the character from the door back to the start of a level that stays completed. -/

namespace GridWalk.Visit
open Surroundings (Recording)

variable {σ : Type} {env : Surroundings σ} {v v' : Visit} {s s' : Visit × σ} {a : Happening} {hs : List Happening}

/-! ### What completes a level -/

theorem Change.completed_iff (h : v.Change a v') (hv : v.Sound) (t : Walk.State) :
    (v'.completed = true ∧ v'.lastWalk = some t) ↔
      (∃ recording, a = .won t recording) ∨ ((v.completed = true ∧ v.lastWalk = some t) ∧ a ≠ .renewed) := by
  cases h with
  | timeUp | aborted | interrupted | accepted | landed => simp [overdue, Visit.aborted]
  | renewed => simp [Visit.renewed]
  | begun moves hidle hnew htime => simp [walking, hnew]
  | shown h => simp [walking, (hv.of_step h).1]
  | acknowledged h => simp [walking, (hv.of_acknowledge h).1]

/-- A level is completed with the last walk `t` where this walk has just won it, or had won it before. -/
theorem Turn.completed_iff (h : Turn env s a s') (hs : s.1.Sound) (t : Walk.State) :
    (s'.1.completed = true ∧ s'.1.lastWalk = some t) ↔
      (∃ recording, a = .won t recording) ∨ ((s.1.completed = true ∧ s.1.lastWalk = some t) ∧ a ≠ .renewed) := by
  cases h with
  | changed h => exact h.completed_iff hs t
  | won hidle htracks hvictory h => simp [htracks.walk, htracks.new, eq_comm]
  | left => simp

theorem Change.late_iff (h : v.Change a v') (hv : v.Sound) :
    (v'.completed = true ∧ v'.timedOut = true) ↔
      (∃ now, a = .timeUp now true) ∨ ((v.completed = true ∧ v.timedOut = true) ∧ a ≠ .renewed) := by
  cases h with
  | timeUp now hearly hlate => simp [overdue, Visit.aborted, hearly]
  | aborted | interrupted | accepted | landed => simp [Visit.aborted]
  | renewed => simp [Visit.renewed]
  | begun moves hidle hnew htime => simp [walking, hnew]
  | shown h => simp [walking, (hv.of_step h).1]
  | acknowledged h => simp [walking, (hv.of_acknowledge h).1]

/-- Time is up on a completed level where it was found to be up after the victory. -/
theorem Turn.late_iff (h : Turn env s a s') (hs : s.1.Sound) :
    (s'.1.completed = true ∧ s'.1.timedOut = true) ↔
      (∃ now, a = .timeUp now true) ∨ ((s.1.completed = true ∧ s.1.timedOut = true) ∧ a ≠ .renewed) := by
  cases h with
  | changed h => exact h.late_iff hs
  | won hidle htracks hvictory h => simp [htracks.early]
  | left => simp

/-- What happened in a history happened to a visit to the same level. -/
theorem History.turn_of_mem (h : History env s hs s') (hsound : s.1.Sound) (ha : a ∈ hs) :
    ∃ t t', Turn env t a t' ∧ t.1.Sound ∧ t.1.level = s.1.level := by
  induction h with
  | refl s => cases ha
  | passed p _ ih => exact ih hsound ha
  | @turned s s₁ s₂ b hs t _ ih =>
    rcases List.mem_cons.mp ha with rfl | ha
    · exact ⟨s, s₁, t, hsound, rfl⟩
    · obtain ⟨u, u', t', hu, hlevel⟩ := ih (t.sound hsound) ha
      exact ⟨u, u', t', hu, hlevel.trans t.level_eq⟩

/-! ### Calls -/

/-- What calls from outside leave, whether they fail or not. Within each of them submissions may be nested as deep
    as `depth` says. -/
def afterCalls (env : Surroundings σ) (depth : Nat) (calls : List Request) (s : Visit × σ) : Visit × σ :=
  calls.foldl (fun s call => (serve env (depth + 1) call s).2) s

theorem afterCalls_history (env : Surroundings σ) (depth : Nat) (calls : List Request) (s : Visit × σ)
    (hsound : s.1.Sound) : ∃ hs, History env s hs (afterCalls env depth calls s) := by
  induction calls generalizing s with
  | nil => exact ⟨[], .refl s⟩
  | cons call calls ih =>
    obtain ⟨hs, hhistory, -⟩ := serve_serves env (depth + 1) call s.1 s.2 hsound
    obtain ⟨hs', hrest⟩ := ih _ (hhistory.sound hsound)
    exact ⟨hs ++ hs', hhistory.trans hrest⟩

/-- What always holds of a visit that was begun and then called for anything, and what its history tells of it. -/
theorem fresh_history (env : Surroundings σ) (depth : Nat) (level : Level) (requireComma : Bool)
    (calls : List Request) (w : σ) :
    ∃ hs v w', afterCalls env depth calls ({ level, requireComma }, w) = (v, w') ∧
      History env ({ level, requireComma }, w) hs (v, w') ∧ v.Sound ∧ v.level = level ∧
      (v.completed = true ↔ Lately (fun a => ∃ t recording, a = .won t recording) hs) ∧
      (∀ t, v.completed = true ∧ v.lastWalk = some t ↔ Lately (fun a => ∃ recording, a = .won t recording) hs) ∧
      (v.completed = true ∧ v.timedOut = true ↔ Lately (fun a => ∃ now, a = .timeUp now true) hs) := by
  have hfresh : ({ level, requireComma } : Visit).Sound := .fresh level requireComma
  obtain ⟨hs, hhistory⟩ := afterCalls_history env depth calls ({ level, requireComma }, w) hfresh
  rcases hcalls : afterCalls env depth calls ({ level, requireComma }, w) with ⟨v, w'⟩
  rw [hcalls] at hhistory
  have hsound : v.Sound := hhistory.sound hfresh
  have hwon : ∀ t, v.completed = true ∧ v.lastWalk = some t ↔ Lately (fun a => ∃ recording, a = .won t recording) hs := by
    intro t
    have hflag := hhistory.flag_iff (fun v => v.completed = true ∧ v.lastWalk = some t)
      (fun a => ∃ recording, a = .won t recording) (fun turn hs => turn.completed_iff hs t) hfresh
    simpa using hflag
  refine ⟨hs, v, w', rfl, hhistory, hsound, hhistory.level_eq, ⟨?_, ?_⟩, hwon, ?_⟩
  · intro hdone
    obtain ⟨t, ht⟩ := hsound.completed hdone
    exact ((hwon t).mp ⟨hdone, ht.walk⟩).mono fun _ ⟨recording, ha⟩ => ⟨t, recording, ha⟩
  · rintro ⟨past, _, later, rfl, ⟨t, recording, rfl⟩, hlater⟩
    exact ((hwon t).mpr ⟨past, _, later, rfl, ⟨recording, rfl⟩, hlater⟩).1
  · have hflag := hhistory.flag_iff (fun v => v.completed = true ∧ v.timedOut = true)
      (fun a => ∃ now, a = .timeUp now true) Turn.late_iff hfresh
    simpa using hflag

/-- Whatever was called for, a level is completed exactly if a walk has won it since the visit was begun anew. That
    walk ended at a door, where the character still stands. Only where time was found to be up after the victory is
    it back at the start, and then the level counts as completed and as timed out. -/
theorem completed_at_door_unless_late (env : Surroundings σ) (depth : Nat) (level : Level) (requireComma : Bool)
    (calls : List Request) (w : σ) :
    ∃ hs v w', afterCalls env depth calls ({ level, requireComma }, w) = (v, w') ∧
      History env ({ level, requireComma }, w) hs (v, w') ∧
      (v.completed = true ↔ Lately (fun a => ∃ s recording, a = .won s recording) hs) ∧
      (∀ s, Lately (fun a => ∃ recording, a = .won s recording) hs →
        level.terrain? s.position = some .door ∧ v.position = if v.timedOut then level.start else s.position) ∧
      (v.completed = true ∧ v.timedOut = true ↔ Lately (fun a => ∃ now, a = .timeUp now true) hs) := by
  obtain ⟨hs, v, w', hcalls, hhistory, hsound, rfl, hcompleted, hwon, hlate⟩ :=
    fresh_history env depth level requireComma calls w
  refine ⟨hs, v, w', hcalls, hhistory, hcompleted, fun s hs => ?_, hlate⟩
  obtain ⟨hdone, hwalk⟩ := (hwon s).mpr hs
  obtain ⟨t, ht⟩ := hsound.completed hdone
  obtain rfl : s = t := Option.some.inj (hwalk.symm.trans ht.walk)
  exact ⟨ht.door, ht.position⟩

/-- In the corridor a look at the clock after the victory sends the character back from the door of the completed
    level. -/
theorem completed_corridor_times_out :
    let left := (afterCalls Desk.surroundings 0 [.submit (some "(d1)x2") (some (.whole 1)), .checkTime (.whole 10)]
      (lateVisit.1, { recorder := some {} })).1
    left.completed = true ∧ left.timedOut = true ∧ left.position = left.level.start ∧
      left.level.terrain? left.position ≠ some .door := by decide +kernel

/-! ### Victories that are not recorded -/

/-- Every victory completes the level, whatever came of recording it: nothing where no records are kept, a record of
    success, a recorder that refuses it, or elapsed seconds without a whole part. Until the visit is begun anew the
    level stays completed and every further submission is turned away. -/
theorem completed_however_recorded (env : Surroundings σ) (depth : Nat) (level : Level) (requireComma : Bool)
    (calls : List Request) (w : σ) :
    ∃ hs v w', afterCalls env depth calls ({ level, requireComma }, w) = (v, w') ∧
      History env ({ level, requireComma }, w) hs (v, w') ∧
      (v.completed = true ↔ Lately (fun a => ∃ s recording, a = .won s recording) hs) ∧
      (∀ s recording, .won s recording ∈ hs → ∃ commandsUsed elapsed w₁ w₂, Recording env
        (fun timeTaken => { level := level.number, commandsUsed, timeTaken, energized := true, success := true })
        elapsed w₁ recording w₂) ∧
      (v.completed = true → ∀ depth text elapsed,
        submit env depth text elapsed (v, w') = (.ok (.rejected completedMessage), v, w')) := by
  obtain ⟨hs, v, w', hcalls, hhistory, -, -, hcompleted, -, -⟩ :=
    fresh_history env depth level requireComma calls w
  refine ⟨hs, v, w', hcalls, hhistory, hcompleted, ?_, ?_⟩
  · intro s recording hmem
    obtain ⟨t, t', hturn, ht, hlevel⟩ := hhistory.turn_of_mem (.fresh level requireComma) hmem
    cases hturn with
    | changed h => cases h
    | @won u w₁ w₂ _ elapsed _ hidle htracks hvictory h =>
      obtain ⟨-, hcharged⟩ := ht.wonAtDoor s htracks.state hvictory
      have hrecord : ∀ timeTaken, u.completion u.lastCommands timeTaken s =
          { level := level.number, commandsUsed := u.lastCommands, timeTaken, energized := true, success := true } := by
        intro timeTaken
        rw [completion, hcharged, show u.level = level from hlevel]
      simp only [hrecord] at h
      exact ⟨u.lastCommands, elapsed, w₁, w₂, h⟩
  · intro hdone depth text elapsed
    rw [submit, submitServing, Act.visit_bind_apply, hdone]
    rfl

/-- In the corridor a recorder that takes no record lets the submission fail, and the level is completed without a
    record. -/
theorem refused_victory_completes_corridor :
    ∃ v d, submit Desk.surroundings 0 (some "(d1)x2") (some (.whole 1))
        ({ level := corridor }, { recorder := some { keeping := .failing } }) =
          (.error (.recorder .diskFull), v, d) ∧
      v.completed = true ∧ d.recorder.map (·.ledger) = some [] := by
  have hanswer : (match submit Desk.surroundings 0 (some "(d1)x2") (some (.whole 1))
      ({ level := corridor }, { recorder := some { keeping := .failing } }) with
    | (.error e, v, d) =>
      decide (e = .recorder .diskFull ∧ v.completed = true ∧ d.recorder.map (·.ledger) = some [])
    | (.ok _, _) => false) = true := by decide +kernel
  split at hanswer
  · rename_i e v d hsubmit
    obtain ⟨rfl, hdone, hledger⟩ := of_decide_eq_true hanswer
    exact ⟨v, d, hsubmit, hdone, hledger⟩
  · cases hanswer

end GridWalk.Visit
