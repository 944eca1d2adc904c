import GridWalk.Proofs.Visit.Answers
import GridWalk.Proofs.Visit.Calling

/-! What is recorded of the attempts at a level, where every record is taken. An attempt lasts until the visit is begun
    anew. At most one victory of it is recorded, and as it was; all other records are made by leaving. -/

namespace GridWalk

open Walk (Event simulate)
open Visit (Account Does Opening)

variable {σ : Type} {env : Surroundings σ} {hear : Deed → σ → σ} {direct : Prop}

/-! ### Ledgers -/

namespace Surroundings

/-- Surroundings that stay within some states, where every record is taken and put at the end of a ledger, which
    nothing else changes. -/
structure Appends (env : Surroundings σ) (hear : Deed → σ → σ) (ledger : σ → List Record) (within : σ → Prop) :
    Prop where
  record : ∀ r w, within w →
    (env.record r w).1 = .ok () ∧ ledger (env.record r w).2 = ledger w ++ [r] ∧ within (env.record r w).2
  display : ∀ e w, within w → ledger (env.display e w).2 = ledger w ∧ within (env.display e w).2
  clock : ∀ w, within w → ledger (env.clock w).2 = ledger w ∧ within (env.clock w).2
  note : ∀ n w, within w → ledger (env.note n w) = ledger w ∧ within (env.note n w)
  hear : ∀ d w, within w → ledger (hear d w) = ledger w ∧ within (hear d w)

variable {ledger : σ → List Record} {within : σ → Prop} {w w' : σ}

theorem Appends.passage {es : List Event} {rs : List Record} {ts : List (Option Number)}
    (h : env.Appends hear ledger within) (p : env.Passage w es rs ts w') (hw : within w) :
    ledger w' = ledger w ++ rs ∧ within w' := by
  induction p with
  | refl w => exact ⟨(List.append_nil _).symm, hw⟩
  | displayed e p ih =>
    obtain ⟨hledger, hw'⟩ := h.display e _ hw
    exact hledger ▸ ih hw'
  | read p ih =>
    obtain ⟨hledger, hw'⟩ := h.clock _ hw
    exact hledger ▸ ih hw'
  | noted n p ih =>
    obtain ⟨hledger, hw'⟩ := h.note n _ hw
    exact hledger ▸ ih hw'
  | recorded r p ih =>
    obtain ⟨-, hledger, hw'⟩ := h.record r _ hw
    obtain ⟨hrest, hw''⟩ := ih hw'
    refine ⟨?_, hw''⟩
    rw [hrest, hledger, List.append_assoc]
    rfl

/-- What was recorded is what is new in the ledger. -/
theorem Appends.recording {record : Int → Record} {elapsed : Number} {recording : Except VisitError (Option Record)}
    (h : env.Appends hear ledger within) (hrecording : env.Recording record elapsed w recording w') (hw : within w) :
    ledger w' = ledger w ++ recording.toOption.join.toList ∧ within w' := by
  cases hrecording with
  | unkept | uncounted => exact ⟨(List.append_nil _).symm, hw⟩
  | taken => exact (h.record _ w hw).2
  | refused _ _ hrefused =>
    cases (h.record _ w hw).1.symm.trans hrefused

end Surroundings

/-! ### Deeds and their records -/

namespace Deed

theorem eq_ok_of_record {recording : Except VisitError (Option Record)} {r : Record}
    (h : recording.toOption.join = some r) : recording = .ok (some r) := by
  cases recording with
  | error e => cases h
  | ok record =>
    obtain rfl : record = some r := h
    rfl

/-- Within an attempt the level is completed by a victory. -/
theorem foldl_completes {attempt : List Deed} (h : renewed ∉ attempt) (done : Bool) :
    attempt.foldl completes done = (done || attempt.any isVictory) := by
  induction attempt generalizing done with
  | nil => exact (Bool.or_false done).symm
  | cons d attempt ih =>
    rw [List.mem_cons, not_or] at h
    have hcompletes : completes done d = (done || d.isVictory) := by
      cases d with
      | renewed => exact absurd rfl h.1
      | _ => rfl
    rw [List.foldl_cons, ih h.2, hcompletes, List.any_cons, Bool.or_assoc]

end Deed

namespace Visit
variable {o : Opening σ} {ds attempt : List Deed} {s s' : Visit × σ} {d : Deed} {r : Record}

/-- A deed puts the record that was made at the end of the ledger. -/
theorem Does.ledger_eq {ledger : σ → List Record} {within : σ → Prop} (hd : Does env hear direct ds s d s')
    (happends : env.Appends hear ledger within) (hw : within s.2) :
    ledger s'.2 = ledger s.2 ++ d.record?.toList ∧ within s'.2 := by
  have hheard : ∀ d w, within w → ledger (hear d w) = ledger w ++ [] ∧ within (hear d w) := by
    intro d w hw
    rw [List.append_nil]
    exact happends.hear d w hw
  cases hd with
  | submits | answered | timeChecked | renewed => exact hheard _ _ hw
  | refused | begun | outOfTime | brokenOff | landed | called => exact ⟨(List.append_nil _).symm, hw⟩
  | won _ _ _ _ h => exact happends.recording h hw
  | left h =>
    obtain ⟨hledger, hw'⟩ := happends.recording h hw
    obtain ⟨hkept, hw''⟩ := happends.hear _ _ hw'
    exact ⟨hkept.trans hledger, hw''⟩

theorem Account.ledger_eq {ledger : σ → List Record} {within : σ → Prop} (h : Account o ds s)
    (happends : o.env.Appends o.hear ledger within) (hw : within o.surroundings) :
    ledger s.2 = ledger o.surroundings ++ ds.filterMap Deed.record? ∧ within s.2 := by
  induction h with
  | opened => exact ⟨(List.append_nil _).symm, hw⟩
  | passed _ p ih =>
    obtain ⟨hledger, hw'⟩ := happends.passage p ih.2
    rw [List.append_nil] at hledger
    exact ⟨hledger.trans ih.1, hw'⟩
  | proceeded _ _ _ ih => exact ih
  | @did ds s s' d _ hd ih =>
    obtain ⟨hledger, hw'⟩ := hd.ledger_eq happends ih.2
    have hlast : [d].filterMap Deed.record? = d.record?.toList := by
      rw [List.filterMap_cons]
      cases d.record? with
      | none => rfl
      | some r => rfl
    refine ⟨?_, hw'⟩
    rw [hledger, ih.1, List.filterMap_append, hlast, List.append_assoc]

/-! ### Victories -/

/-- A victory is that of a walk on a level that was not completed. -/
theorem Account.not_completed_of_victory (h : Account o ds s) (hd : Does o.env o.hear o.direct ds s d s')
    (hvictory : d.isVictory = true) : s.1.completed = false := by
  cases d with
  | ended text t recording => exact (h.walks text hd.of_ended.1).new
  | _ => cases hvictory

theorem countP_victories_of_suffix (h : Account o ds s) (hnew : s.1.completed = false) (hlast : attempt <:+ ds)
    (hsame : .renewed ∉ attempt) : attempt.countP Deed.isVictory = 0 := by
  obtain ⟨past, rfl⟩ := hlast
  have hnone := h.completed_eq.symm.trans hnew
  rw [List.foldl_append, Deed.foldl_completes hsame, Bool.or_eq_false_iff] at hnone
  rw [List.countP_eq_zero]
  exact List.any_eq_false.mp hnone.2

/-- No attempt is won twice. -/
theorem Account.countP_victories_le_one (h : Account o ds s) (hpart : attempt <:+: ds) (hsame : .renewed ∉ attempt) :
    attempt.countP Deed.isVictory ≤ 1 := by
  induction h generalizing attempt with
  | opened =>
    rw [List.infix_nil.mp hpart]
    exact Nat.zero_le 1
  | passed _ _ ih => exact ih hpart hsame
  | proceeded _ _ _ ih => exact ih hpart hsame
  | @did ds s s' d h hd ih =>
    rcases List.infix_concat_iff.mp hpart with hsuffix | hpart
    · rcases List.suffix_concat_iff.mp hsuffix with rfl | ⟨before, rfl, hbefore⟩
      · exact Nat.zero_le 1
      · rw [List.mem_append, not_or] at hsame
        rw [List.countP_append, List.countP_singleton]
        split
        · rename_i hvictory
          rw [countP_victories_of_suffix h (h.not_completed_of_victory hd hvictory) hbefore hsame.1]
        · exact ih hbefore.isInfix hsame.1
    · exact ih hpart hsame

/-! ### Records -/

/-- A record tells of a victory or of a departure. -/
theorem Does.of_record (hd : Does env hear direct ds s d s') (hr : d.record? = some r) :
    (∃ text t time, d = .ended text t (.ok (some r)) ∧ t.outcome = .victory ∧
      r = s.1.completion (Command.termCount text) time t) ∨
    (∃ time, d = .left (.ok (some r)) ∧ r = s.1.departure time s.1.wasEnergized) := by
  cases hd with
  | @won v w w' text t elapsed recording hnow hidle ht hvictory h =>
    obtain rfl := Deed.eq_ok_of_record hr
    cases h with
    | taken => exact .inl ⟨text, t, _, rfl, hvictory, rfl⟩
  | @left v w w' elapsed recording h =>
    obtain rfl := Deed.eq_ok_of_record hr
    cases h with
    | taken => exact .inr ⟨_, rfl, rfl⟩
  | _ => cases hr

/-- What is recorded of attempts at a level. -/
structure TrulyRecorded (o : Opening σ) (ds : List Deed) : Prop where
  /-- An attempt has at most one record of success. -/
  once : ∀ attempt, attempt <:+: ds → .renewed ∉ attempt →
    (attempt.filterMap Deed.record?).countP (·.success) ≤ 1
  level : ∀ d ∈ ds, ∀ r, d.record? = some r → r.level = o.level.number
  /-- A success was a victory of the text underway, the terms of which were counted. -/
  success : ∀ past d later r, ds = past ++ d :: later → d.record? = some r → r.success = true →
    r.energized = true ∧ 1 ≤ r.commandsUsed ∧ ∃ text t, d = .ended text t (.ok (some r)) ∧ t.outcome = .victory ∧
      textUnderway past = some text ∧ o.visit.WalksTo text t ∧ r.commandsUsed = (Command.termCount text : Int)
  /-- All else was recorded by leaving. -/
  failure : ∀ d ∈ ds, ∀ r, d.record? = some r → r.success = false → d = .left (.ok (some r))

/-- An accepted text has terms. -/
theorem one_le_termCount {v : Visit} {text : String} (h : v.options.accepts text = true) :
    1 ≤ Command.termCount text := by
  rw [options_eq] at h
  obtain ⟨-, -, hfits⟩ := Command.accepts_iff_clean.mp h
  exact List.length_pos_iff.mpr hfits.nonempty

theorem Account.countP_successes_le (h : Account o ds s) (hpart : attempt ⊆ ds) :
    (attempt.filterMap Deed.record?).countP (·.success) ≤ attempt.countP Deed.isVictory := by
  rw [List.countP_filterMap]
  refine List.countP_mono_left fun d hd hsuccess => ?_
  obtain ⟨past, later, u, u', -, -, hdoes⟩ := h.exists_does_of_mem (hpart hd)
  cases hr : d.record? with
  | none =>
    rw [hr] at hsuccess
    cases hsuccess
  | some r =>
    rw [hr] at hsuccess
    rcases hdoes.of_record hr with ⟨text, t, time, rfl, hvictory, -⟩ | ⟨time, -, rfl⟩
    · exact decide_eq_true hvictory
    · cases hsuccess

theorem Account.trulyRecorded (h : Account o ds s) : TrulyRecorded o ds where
  once attempt hpart hsame :=
    (h.countP_successes_le hpart.subset).trans (h.countP_victories_le_one hpart hsame)
  level d hd r hr := by
    obtain ⟨past, later, u, u', -, hu, hdoes⟩ := h.exists_does_of_mem hd
    rw [← hu.level_eq.1]
    rcases hdoes.of_record hr with ⟨text, t, time, -, -, rfl⟩ | ⟨time, -, rfl⟩
    · rfl
    · rfl
  success past d later r heq hr hsuccess := by
    obtain ⟨u, u', hu, hdoes⟩ := h.exists_does heq
    have hmem : d ∈ ds := heq ▸ List.mem_append_cons_self
    rcases hdoes.of_record hr with ⟨text, t, time, rfl, hvictory, rfl⟩ | ⟨time, -, rfl⟩
    · have hwalk := h.walksTo hmem
      exact ⟨hwalk.charged hvictory, Int.ofNat_le.mpr (one_le_termCount hwalk.accepts), text, t, rfl, hvictory,
        hdoes.of_ended.1, hwalk, rfl⟩
    · cases hsuccess
  failure d hd r hr hfailure := by
    obtain ⟨past, later, u, u', -, -, hdoes⟩ := h.exists_does_of_mem hd
    rcases hdoes.of_record hr with ⟨text, t, time, rfl, -, rfl⟩ | ⟨time, rfl, -⟩
    · cases hfailure
    · rfl

/-- Whatever callers do, where every record is taken: what is new in the ledger are the records of their deeds, and of
    these each success is the one victory of its attempt. -/
theorem one_true_victory_per_attempt (env : Surroundings σ) (hear : Deed → σ → σ)
    (ledger : σ → List Record) (within : σ → Prop) (happends : env.Appends hear ledger within) (level : Level)
    (requireComma : Bool) (c : Caller σ direct) (w : σ) (hw : within w) :
    ∃ result ds v w', c.act env hear ({ level, requireComma }, w) = (result, v, w') ∧
      Account ⟨env, hear, direct, level, requireComma, w⟩ ds (v, w') ∧
      ledger w' = ledger w ++ ds.filterMap Deed.record? ∧
      TrulyRecorded ⟨env, hear, direct, level, requireComma, w⟩ ds := by
  let o : Opening σ := ⟨env, hear, direct, level, requireComma, w⟩
  obtain ⟨result, ds, v, w', hact, hacc, -⟩ := c.extends_of_none (o := o) .opened rfl
  exact ⟨result, ds, v, w', hact, hacc, (hacc.ledger_eq happends hw).1, hacc.trulyRecorded⟩

end Visit

/-! ### In the corridor -/

namespace Rehearsal

/-- The records that a rehearsal keeps. -/
def ledger (r : Rehearsal) : List Record := (r.desk.recorder.map (·.ledger)).getD []

/-- A recorder that keeps its ledger in memory puts each record at its end. -/
theorem appends : surroundings.Appends (fun _ r => r) ledger (·.desk.RemembersRecords) where
  record := by
    rintro r ⟨⟨out, notes, _, files, showsMoves⟩, plan, shown, readings⟩ ⟨⟨_, kept⟩, rfl, rfl⟩
    exact ⟨rfl, rfl, ⟨.memory, kept ++ [r]⟩, rfl, rfl⟩
  display := by
    rintro e r ⟨k, hk, hkeeping⟩
    change ledger (r.display e).2 = ledger r ∧ (r.display e).2.desk.RemembersRecords
    rw [display]
    cases r.plan with
    | none => exact ⟨rfl, k, hk, hkeeping⟩
    | some plan =>
      have hkept := Desk.recorder_display e r.desk
      refine ⟨?_, k, hkept.trans hk, hkeeping⟩
      rw [ledger, hkept, ledger]
  clock := by
    intro r hr
    change ledger r.clock.2 = ledger r ∧ r.clock.2.desk.RemembersRecords
    rw [clock]
    split
    · exact ⟨rfl, hr⟩
    · exact ⟨rfl, hr⟩
    · exact ⟨rfl, hr⟩
  note _ _ hr := ⟨rfl, hr⟩
  hear _ _ hr := ⟨rfl, hr⟩

end Rehearsal

namespace Visit

/-- Two attempts at the corridor, of which the first one is left while it is walked. -/
def corridorAttempts : Caller Rehearsal False × Rehearsal :=
  (.submit (some "(d1)x2") (some (.whole 1)) (Caller.ofRequest False 0) fun _ => .restart
    (.submit (some "(d1)x2") (some (.whole 3)) (Caller.ofRequest False 0) fun _ => .done),
  { desk := { recorder := some {} }, plan := some [(1, .leave (some (.whole 2)))] })

theorem corridor_victory_per_attempt :
    Rehearsal.surroundings.Appends (fun _ r => r) Rehearsal.ledger (·.desk.RemembersRecords) ∧
      corridorAttempts.2.desk.RemembersRecords ∧
      ∃ result ds v r, corridorAttempts.1.act Rehearsal.surroundings (fun _ r => r)
          ({ level := corridor }, corridorAttempts.2) = (result, v, r) ∧
        Account ⟨Rehearsal.surroundings, fun _ r => r, False, corridor, true, corridorAttempts.2⟩ ds (v, r) ∧
        Rehearsal.ledger r = Rehearsal.ledger corridorAttempts.2 ++ ds.filterMap Deed.record? ∧
        TrulyRecorded ⟨Rehearsal.surroundings, fun _ r => r, False, corridor, true, corridorAttempts.2⟩ ds :=
  have hremembers : corridorAttempts.2.desk.RemembersRecords := ⟨{}, rfl, rfl⟩
  ⟨Rehearsal.appends, hremembers,
    one_true_victory_per_attempt Rehearsal.surroundings (fun _ r => r) Rehearsal.ledger (·.desk.RemembersRecords)
      Rehearsal.appends corridor true corridorAttempts.1 corridorAttempts.2 hremembers⟩

/-- The attempt that was left and the victory of the other one are what is recorded. -/
example : (Rehearsal.ledger (corridorAttempts.1.act Rehearsal.surroundings (fun _ r => r)
    ({ level := corridor }, corridorAttempts.2)).2.2).map (·.success) = [false, true] := by decide +kernel

end Visit
end GridWalk
