import GridWalk.Proofs.Visit.Deadline
import Mathlib.Data.Rat.Floor

/-! The times that are recorded. A success is recorded with the whole part of a reading of its own, which is taken once
    the reading after the last event was found to be below the limit. -/

namespace GridWalk

open Walk (Stepper Event)

/-! ### Whole parts -/

theorem wholePart_lt_iff {q : Rat} {n : Int} (hn : 0 < n) : wholePart q < n ↔ q < n := by
  have hden : (0 : Int) < q.den := Int.natCast_pos.mpr q.den_pos
  rcases Int.lt_or_le q.num 0 with hneg | hnonneg
  · have hpart : wholePart q ≤ 0 := by
      rw [wholePart, ← Int.neg_neg q.num, Int.neg_tdiv]
      exact Int.neg_nonpos_of_nonneg (Int.tdiv_nonneg (Int.neg_nonneg.mpr hneg.le) hden.le)
    have hq : q < n := (Rat.num_neg.mp hneg).trans (Rat.intCast_pos.mpr hn)
    exact iff_of_true (hpart.trans_lt hn) hq
  · rw [wholePart, Int.tdiv_eq_ediv_of_nonneg hnonneg, Int.ediv_lt_iff_lt_mul hden, Rat.lt_iff]
    simp only [Rat.den_intCast, Rat.num_intCast, Nat.cast_one, mul_one]

/-- The whole part of a number is below a positive whole number exactly if the number is. -/
theorem Number.truncate_lt_iff {now : Number} {time limit : Int} (h : now.truncate = .ok time) (hlimit : 0 < limit) :
    time < limit ↔ now.less (.whole limit) = true := by
  rw [truncate] at h
  rw [less]
  cases hvalue : now.value with
  | finite q =>
    rw [hvalue] at h
    obtain rfl : wholePart q = time := Except.ok.inj h
    rw [wholePart_lt_iff hlimit]
    exact decide_eq_true_iff.symm
  | infinity | nan =>
    rw [hvalue] at h
    cases h

/-- Every walk has an event. -/
theorem Walk.events_ne_nil (level : Level) (moves : List Move) : events level moves ≠ [] := by
  obtain ⟨e, st, hstep⟩ := Stepper.exists_step (w := .ready { position := level.start } moves) level rfl rfl
  obtain ⟨st', -, hround⟩ := Stepper.round_of_step hstep
  have hevents : events level moves = ((Stepper.ready { position := level.start } moves).drain level).1 := rfl
  rw [hevents, Stepper.drain_of_ok hround]
  exact List.cons_ne_nil _ _

namespace Visit
open Surroundings

variable {σ : Type} {env : Surroundings σ} {keeps : Bool} {within : σ → Prop} {readings : σ → Stream' Number}
  {v : Visit} {w w' : σ} {s s' s'' : Visit × σ} {limit : Number}

/-! ### Records of success -/

/-- A record is timed by one of the first `n` readings, and the reading before is below the limit. -/
def TimedBy (limit : Number) (coming : Stream' Number) (n : Nat) (r : Record) : Prop :=
  ∃ i, i + 1 < n ∧ (coming.get i).less limit = true ∧ (coming.get (i + 1)).truncate = .ok r.timeTaken

theorem TimedBy.mono {coming : Stream' Number} {n n' : Nat} {r : Record} (h : TimedBy limit coming n r) (hle : n ≤ n') :
    TimedBy limit coming n' r := by
  obtain ⟨i, hi, hearly, htime⟩ := h
  exact ⟨i, Nat.lt_of_lt_of_le hi hle, hearly, htime⟩

theorem TimedBy.of_drop {coming : Stream' Number} {m n : Nat} {r : Record} (h : TimedBy limit (coming.drop m) n r) :
    TimedBy limit coming (m + n) r := by
  obtain ⟨i, hi, hearly, htime⟩ := h
  rw [Stream'.get_drop] at hearly htime
  exact ⟨m + i, by omega, hearly, htime⟩

/-- From one state of a visit and its surroundings to another no walk is left in progress and each success that is
    recorded is timed by a reading after one below the limit. -/
structure KeepsTime (env : Surroundings σ) (readings : σ → Stream' Number) (limit : Number) (s s' : Visit × σ) :
    Prop where
  idle : s'.1.stepper.inFlight = false
  level : s'.1.level = s.1.level
  passage : ∃ es rs ts, env.Passage s.2 es rs ts s'.2 ∧
    ∀ r ∈ rs, r.success = true → TimedBy limit (readings s.2) ts.length r

namespace KeepsTime

theorem of_failures {v' : Visit} {es : List Event} {rs : List Record} {ts : List (Option Number)}
    (hidle : v'.stepper.inFlight = false) (hlevel : v'.level = v.level) (p : env.Passage w es rs ts w')
    (hrs : ∀ r ∈ rs, r.success = false) : KeepsTime env readings limit (v, w) (v', w') :=
  ⟨hidle, hlevel, es, rs, ts, p, fun r hr hsuccess => absurd ((hrs r hr).symm.trans hsuccess) Bool.false_ne_true⟩

theorem trans (hcalm : Calm env keeps within) (hticks : env.Ticks within readings) (hw : within s.2)
    (h : KeepsTime env readings limit s s') (h' : KeepsTime env readings limit s' s'') :
    KeepsTime env readings limit s s'' := by
  obtain ⟨es, rs, ts, p, hrs⟩ := h.passage
  obtain ⟨es', rs', ts', p', hrs'⟩ := h'.passage
  rw [(hticks.passage hcalm p hw).2] at hrs'
  refine ⟨h'.idle, h'.level.trans h.level, es ++ es', rs ++ rs', ts ++ ts', p.trans p', fun r hr hsuccess => ?_⟩
  rw [List.length_append]
  rcases List.mem_append.mp hr with hr | hr
  · exact (hrs r hr hsuccess).mono (Nat.le_add_right _ _)
  · exact (hrs' r hr hsuccess).of_drop

end KeepsTime

/-- Where no elapsed seconds are given, a victory is recorded with those of a reading. -/
theorem conclude_of_reading (env : Surroundings σ) (commandsUsed : Nat) {course : Course} (v : Visit) (w : σ)
    (hvictory : course.state.outcome = .victory) :
    ∃ result rs w', conclude env commandsUsed none course (v, w) =
        (result, { v with completed := true, position := course.state.position }, w') ∧
      env.Passage w [] rs [(env.clock w).1] w' ∧
      ∀ r ∈ rs, ((env.clock w).1.getD (.whole 0)).truncate = .ok r.timeTaken := by
  have hread : ∀ u, readElapsed env none (u, w) = (.ok ((env.clock w).1.getD (.whole 0)), u, (env.clock w).2) :=
    fun _ => rfl
  obtain ⟨recording, result, w', hrecording, hconclude⟩ := conclude_of_elapsed env commandsUsed v hvictory hread
  obtain ⟨rs, p, hrs⟩ := hrecording.passage
  refine ⟨result, rs, w', hconclude, .read p, fun r hr => ?_⟩
  obtain ⟨time, htime, rfl⟩ := hrs r hr
  exact htime

/-- A victory is recorded by the look at the clock that follows the one after its last event. -/
theorem walkProgram_keepsTime (hcalm : Calm env keeps within) (hticks : env.Ticks within readings)
    (serve : Request → Act σ Unit) (program : Program) (hw : within w) (hlimit : v.level.timeLimit = some limit)
    (hidle : v.stepper.inFlight = false) (htime : v.timedOut = false) :
    KeepsTime env readings limit (v, w) (walkProgram env serve program none (v, w)).2 := by
  obtain ⟨course, v', w₁, ts, p, hlength, hfollowed, hprogram⟩ :=
    walkProgram_followed hcalm serve program none hw hidle htime
  obtain ⟨hts, hrest⟩ := hticks.passage hcalm p hw
  rw [hlength] at hts hrest
  rw [hprogram]
  rcases hfollowed.cases_coming (readings w) hts with ⟨hout, rfl, hdrain, hearly⟩ | ⟨hout, rfl, -⟩
  · rw [hout, if_neg Bool.false_ne_true]
    by_cases hvictory : course.state.outcome = .victory
    · obtain ⟨result, rs, w₂, hconclude, p', hrs⟩ := conclude_of_reading env program.length
        ({ v with lastCommands := program.length }.walking (.resting course.state)) w₁ hvictory
      rw [hconclude]
      refine ⟨rfl, rfl, _, _, _, p.trans p', fun r hr _ => ?_⟩
      have htaken := hrs r hr
      rw [hticks.shows w₁ (p.stays hcalm hw), hrest, Stream'.head_drop] at htaken
      -- The look before the one for the record is that after the last event.
      obtain ⟨n, hn⟩ : ∃ n, course.events.toList.length = n + 1 := by
        refine Nat.exists_eq_succ_of_ne_zero fun hzero => Walk.events_ne_nil v.level program.unroll ?_
        exact (whole_of_drain hdrain).1.trans (List.length_eq_zero_iff.mp hzero)
      rw [hn] at htaken hearly
      have hbefore : v.isOverdue ((readings w).get n) = false := hearly n (Nat.lt_succ_self n)
      refine ⟨n, ?_, (isOverdue_eq_false_iff hlimit).mp hbefore, htaken⟩
      rw [List.length_append, hlength, hn]
      exact Nat.lt_succ_self _
    · rw [conclude_of_ne_victory env false program.length none 0 w₁ hvictory]
      exact .of_failures rfl rfl p nofun
  · rw [hout]
    exact .of_failures rfl rfl p nofun

theorem submitServing_keepsTime (hcalm : Calm env keeps within) (hticks : env.Ticks within readings)
    (serve : Request → Act σ Unit) (text : Option String) (hw : within w) (hlimit : v.level.timeLimit = some limit)
    (hidle : v.stepper.inFlight = false) :
    KeepsTime env readings limit (v, w) (submitServing env serve text none (v, w)).2 := by
  obtain ⟨ts, w₁, p, ⟨report, hsubmit⟩ | ⟨now, report, -, -, hsubmit⟩ | ⟨t, -, -, -, htime, hsubmit⟩⟩ :=
    submitServing_cases env serve text none v w
  · rw [hsubmit]
    exact .of_failures hidle rfl p nofun
  · rw [hsubmit]
    exact .of_failures v.stepper.inFlight_abort rfl p nofun
  · rw [hsubmit]
    have hread : KeepsTime env readings limit (v, w) (v, w₁) := .of_failures hidle rfl p nofun
    exact hread.trans hcalm hticks hw
      (walkProgram_keepsTime hcalm hticks serve _ (p.stays hcalm hw) hlimit hidle htime)

/-- A call that leaves the elapsed seconds to the clock keeps time. -/
theorem serve_keepsTime (hcalm : Calm env keeps within) (hticks : env.Ticks within readings) (depth : Nat)
    {call : Request} (hcall : ∀ text now, call ≠ .submit text (some now)) (hw : within w)
    (hlimit : v.level.timeLimit = some limit) (hidle : v.stepper.inFlight = false) :
    KeepsTime env readings limit (v, w) (serve env (depth + 1) call (v, w)).2 := by
  cases call with
  | fail => exact .of_failures hidle rfl (.refl w) nofun
  | submit text given =>
    cases given with
    | some now => exact absurd rfl (hcall text now)
    | none =>
      rw [serve, discard_snd]
      exact submitServing_keepsTime hcalm hticks (serve env depth) text hw hlimit hidle
  | checkTime elapsed =>
    obtain ⟨w₁, hcheck, p⟩ := checkTime_passage env elapsed v w
    rw [serve, discard_snd, hcheck]
    split
    · exact .of_failures v.stepper.inFlight_abort rfl p nofun
    · exact .of_failures hidle rfl p nofun
  | leave given =>
    obtain ⟨elapsed, ts, result, w₁, w₂, hleave, p, hrecording⟩ := leave_passage env given v w
    obtain ⟨rs, p', hrs⟩ := hrecording.passage
    rw [serve, discard_snd, hleave]
    refine .of_failures v.stepper.inFlight_abort rfl (p.trans p') fun r hr => ?_
    obtain ⟨time, -, rfl⟩ := hrs r hr
    rfl
  | restart =>
    obtain ⟨w₁, hrestart, p⟩ := restart_passage env v w
    rw [serve, hrestart]
    exact .of_failures v.stepper.inFlight_abort rfl p nofun

theorem afterCalls_keepsTime (hcalm : Calm env keeps within) (hticks : env.Ticks within readings) (depth : Nat)
    (calls : List Request) (hcalls : ∀ call ∈ calls, ∀ text now, call ≠ .submit text (some now)) (hw : within w)
    (hlimit : v.level.timeLimit = some limit) (hidle : v.stepper.inFlight = false) :
    KeepsTime env readings limit (v, w) (afterCalls env depth calls (v, w)) := by
  induction calls generalizing v w with
  | nil => exact .of_failures hidle rfl (.refl w) nofun
  | cons call calls ih =>
    obtain ⟨hcall, hcalls⟩ := List.forall_mem_cons.mp hcalls
    have hfirst := serve_keepsTime hcalm hticks depth hcall hw hlimit hidle
    obtain ⟨es, rs, ts, p, -⟩ := hfirst.passage
    exact hfirst.trans hcalm hticks hw
      (ih hcalls (p.stays hcalm hw) ((congrArg (·.timeLimit) hfirst.level).trans hlimit) hfirst.idle)

/-- On a level with a limit of whole seconds, whatever is called for while the elapsed seconds are left to the clock: a
    success is recorded with the whole part of a reading, and the reading before, after the last event, was below the
    limit. So the time recorded is below the limit exactly if the limit was not reached between these two readings. -/
theorem success_time_lt_limit_iff (env : Surroundings σ) (keeps : Bool) (within : σ → Prop)
    (readings : σ → Stream' Number) (hcalm : env.Calm keeps within) (hticks : env.Ticks within readings) (level : Level)
    (requireComma : Bool) (limit : Int) (hlimit : level.timeLimit = some (.whole limit)) (hpos : 0 < limit)
    (depth : Nat) (calls : List Request) (hcalls : ∀ call ∈ calls, ∀ text now, call ≠ .submit text (some now)) (w : σ)
    (hw : within w) :
    ∃ v w' es rs n, afterCalls env depth calls ({ level, requireComma }, w) = (v, w') ∧
      env.Passage w es rs (((readings w).take n).map some) w' ∧
      ∀ r ∈ rs, r.success = true → ∃ i, i + 1 < n ∧ ((readings w).get i).less (.whole limit) = true ∧
        ((readings w).get (i + 1)).truncate = .ok r.timeTaken ∧
        (r.timeTaken < limit ↔ ((readings w).get (i + 1)).less (.whole limit) = true) := by
  have hkept := afterCalls_keepsTime (v := { level, requireComma }) hcalm hticks depth calls hcalls hw hlimit rfl
  obtain ⟨es, rs, ts, p, hrs⟩ := hkept.passage
  refine ⟨_, _, es, rs, ts.length, rfl, (hticks.passage hcalm p hw).1 ▸ p, fun r hr hsuccess => ?_⟩
  obtain ⟨i, hi, hearly, htime⟩ := hrs r hr hsuccess
  exact ⟨i, hi, hearly, htime, Number.truncate_lt_iff htime hpos⟩

/-- A visit to the corridor with a time limit, where the clock shows its end once the victory is acknowledged. -/
def barelyWon : Visit × Rehearsal :=
  (lateVisit.1, {
    desk := { recorder := some {} }
    readings := some [.whole 0, .whole 1, .whole 2, .whole 3, .whole 4, .whole 10] })

theorem barelyWon_timed : barelyWon.2.Timed := ⟨⟨fun _ hplan => (nomatch hplan), {}, rfl, rfl⟩, .whole 0, _, rfl⟩

theorem barelyWon_success_time_lt_limit_iff :
    Rehearsal.surroundings.Calm true Rehearsal.Timed ∧ Rehearsal.surroundings.Ticks Rehearsal.Timed Rehearsal.toCome ∧
      barelyWon.1.level.timeLimit = some (.whole 10) ∧ (0 : Int) < 10 ∧ barelyWon.2.Timed ∧
      (∀ call ∈ [Request.submit (some "(d1)x2") none], ∀ text now, call ≠ .submit text (some now)) ∧
      ∃ v w' es rs n, afterCalls Rehearsal.surroundings 0 [.submit (some "(d1)x2") none]
          ({ level := barelyWon.1.level }, barelyWon.2) = (v, w') ∧
        Rehearsal.surroundings.Passage barelyWon.2 es rs ((barelyWon.2.toCome.take n).map some) w' ∧
        ∀ r ∈ rs, r.success = true → ∃ i, i + 1 < n ∧ (barelyWon.2.toCome.get i).less (.whole 10) = true ∧
          (barelyWon.2.toCome.get (i + 1)).truncate = .ok r.timeTaken ∧
          (r.timeTaken < 10 ↔ (barelyWon.2.toCome.get (i + 1)).less (.whole 10) = true) :=
  have hcalls : ∀ call ∈ [Request.submit (some "(d1)x2") none], ∀ text now, call ≠ .submit text (some now) := by
    intro call hcall text now
    rw [List.mem_singleton.mp hcall]
    nofun
  ⟨Rehearsal.calm_timed, Rehearsal.ticks, rfl, by decide, barelyWon_timed, hcalls,
    success_time_lt_limit_iff Rehearsal.surroundings true Rehearsal.Timed Rehearsal.toCome Rehearsal.calm_timed
      Rehearsal.ticks barelyWon.1.level true 10 rfl (by decide) 0 [.submit (some "(d1)x2") none] hcalls barelyWon.2
      barelyWon_timed⟩

/-- There the clock never goes back, and the victory is recorded with the ten seconds of the limit. -/
theorem victory_recorded_at_limit :
    (∀ n, (barelyWon.2.toCome.get (n + 1)).less (barelyWon.2.toCome.get n) = false) ∧
      barelyWon.1.level.timeLimit = some (.whole 10) ∧
      (afterCalls Rehearsal.surroundings 0 [.submit (some "(d1)x2") none] barelyWon).2.desk.recorder.map (·.ledger) =
        some [{ level := 15, commandsUsed := 1, timeTaken := 10, energized := true, success := true }] := by
  refine ⟨fun n => ?_, rfl, by decide +kernel⟩
  match n with
  | 0 | 1 | 2 | 3 | 4 | 5 => decide +kernel
  | n + 6 =>
    -- The last reading stays.
    have hlast : barelyWon.2.toCome.get (n + 6) = .whole 10 := rfl
    have hnext : barelyWon.2.toCome.get (n + 6 + 1) = .whole 10 := rfl
    rw [hlast, hnext]
    decide +kernel

end Visit
end GridWalk
