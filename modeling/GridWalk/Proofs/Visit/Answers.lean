import GridWalk.Proofs.Visit.Arrival
import GridWalk.Proofs.Visit.Submission
import GridWalk.Visit.Rehearsal

/-! What a player can take from the answer to a submission. Without a clock it is what judging the text and
    walking it from start to end gives. With a clock a reported success need not complete the level: time may
    run out while the event of the victory is shown. -/

namespace GridWalk

open Walk (Event simulate)
open Surroundings

/-! ### Calm desks -/

namespace Desk

/-- The recorder keeps its ledger in memory. -/
def RemembersRecords (d : Desk) : Prop := ∃ k, d.recorder = some k ∧ k.keeping = .memory

theorem recorder_foldl_print (lines : List String) (d : Desk) :
    (lines.foldl (fun d line => d.print line) d).recorder = d.recorder := by
  induction lines generalizing d with
  | nil => rfl
  | cons line lines ih => exact ih (d.print line)

theorem recorder_display (e : Event) (d : Desk) : (d.display e).recorder = d.recorder :=
  recorder_foldl_print (e.printed d.showsMoves) d

/-- A recorder that keeps its ledger in memory takes every record. -/
theorem record_of_remembers {d : Desk} (h : d.RemembersRecords) (r : Record) :
    ∃ d', d.record r = (.ok (), d') ∧ d'.RemembersRecords := by
  obtain ⟨⟨keeping, ledger⟩, hk, rfl⟩ := h
  have hrecord : d.record r =
      (.ok (), { d with recorder := some { keeping := .memory, ledger := ledger ++ [r] } }) := by
    rw [record, hk]
    rfl
  exact ⟨_, hrecord, _, rfl, rfl⟩

theorem calm : surroundings.Calm true RemembersRecords where
  unasking _ _ _ := rfl
  keepsRecords := by
    rintro d ⟨k, hk, -⟩
    exact congrArg Option.isSome hk
  taken := by
    intro r d hd _
    obtain ⟨d', hrecord, -⟩ := record_of_remembers hd r
    exact congrArg Prod.fst hrecord
  display := by
    rintro e d ⟨k, hk, hkeeping⟩
    exact ⟨k, (recorder_display e d).trans hk, hkeeping⟩
  record := by
    intro r d hd
    obtain ⟨d', hrecord, hd'⟩ := record_of_remembers hd r
    have hlast : (surroundings.record r d).2 = d' := congrArg Prod.snd hrecord
    rw [hlast]
    exact hd'
  clock _ hd := hd
  note _ _ hd := hd

theorem timeless : surroundings.Timeless RemembersRecords := fun _ _ => rfl

end Desk

namespace Rehearsal

/-- Nothing is planned and records are remembered. -/
structure Quiet (r : Rehearsal) : Prop where
  plan : ∀ plan ∈ r.plan, plan = []
  desk : r.desk.RemembersRecords

theorem Quiet.display {r : Rehearsal} (h : r.Quiet) (e : Event) : (r.display e).1 = [] ∧ (r.display e).2.Quiet := by
  rw [Rehearsal.display]
  cases hplan : r.plan with
  | none => exact ⟨rfl, h⟩
  | some plan =>
    obtain rfl := h.plan plan hplan
    refine ⟨rfl, ?_, Desk.calm.display e r.desk h.desk⟩
    rintro _ ⟨⟩
    rfl

theorem Quiet.clock {r : Rehearsal} (h : r.Quiet) : r.clock.2.Quiet := by
  rw [Rehearsal.clock]
  split
  · exact ⟨h.plan, h.desk⟩
  · exact h
  · exact h

theorem calm : surroundings.Calm true Quiet where
  unasking e _ hr := (hr.display e).1
  keepsRecords r hr := Desk.calm.keepsRecords r.desk hr.desk
  taken record r hr := Desk.calm.taken record r.desk hr.desk
  display e _ hr := (hr.display e).2
  record record r hr := ⟨hr.plan, Desk.calm.record record r.desk hr.desk⟩
  clock _ hr := hr.clock
  note _ _ hr := ⟨hr.plan, hr.desk⟩

end Rehearsal

namespace Visit

variable {σ : Type} {env : Surroundings σ} {keeps : Bool} {within : σ → Prop} {v : Visit} {w : σ}

/-! ### Without a clock -/

theorem refusal?_of_completed (text : String) (now : Number) (h : v.completed = true) :
    v.refusal? text now = some completedMessage := by
  rw [refusal?, h, if_pos rfl]

theorem timeChecked_of_completed (now : Number) (h : v.completed = true) : v.timeChecked now = v := by
  rw [timeChecked, h]
  rfl

theorem wholeReport_congr {events : List Event} {commandsUsed : Nat} {time time' : Int} {s : Walk.State}
    (h : keeps = true → s.outcome = .victory → time = time') :
    v.wholeReport keeps events commandsUsed time s = v.wholeReport keeps events commandsUsed time' s := by
  by_cases hrecorded : s.outcome = .victory ∧ keeps = true
  · rw [h hrecorded.2 hrecorded.1]
  · rw [wholeReport, wholeReport, if_neg hrecorded, if_neg hrecorded]

/-- Where there is no clock, a text that is refused changes nothing but that time may be up, and any other text is
    walked just as the walk of its moves over the level goes. -/
theorem submit_validates_then_simulates (env : Surroundings σ) (keeps : Bool) (within : σ → Prop)
    (hcalm : env.Calm keeps within) (htimeless : env.Timeless within) (v : Visit) (w : σ) (hw : within w)
    (hidle : v.stepper.inFlight = false) (depth : Nat) (text : String) (given : Option Number) (time : Int)
    (htime : (given.getD (.whole 0)).truncate = .ok time) :
    ∃ report v' w' ts, submit env depth (some text) given (v, w) = (.ok report, v', w') ∧
      env.Passage w report.events report.record.toList ts w' ∧
      match v.refusal? text (given.getD (.whole 0)) with
      | some message => report = .rejected message ∧ v' = v.timeChecked (given.getD (.whole 0))
      | none => ∃ s, simulate v.level (Command.movesOf text) = some s ∧
          report = v.wholeReport keeps (Walk.events v.level (Command.movesOf text))
            (Command.read text).terms.length time s ∧
          v' = v.walked (Command.read text).terms.length s := by
  obtain ⟨result, v', w', es, rs, ts, hsubmit, hpassage, hanswered⟩ := submit_answered hcalm hw hidle depth text given
  have hnone : ∀ t ∈ ts, t = none := hpassage.forall_readings hcalm htimeless hw
  cases hanswered with
  | completed h =>
    refine ⟨_, v, w', ts, hsubmit, hpassage, ?_⟩
    rw [refusal?_of_completed text _ h, timeChecked_of_completed _ h]
    exact ⟨rfl, rfl⟩
  | refused hnow h =>
    obtain rfl := hnow.eq_of_timeless hnone
    refine ⟨_, _, w', ts, hsubmit, hpassage, ?_⟩
    rw [h]
    exact ⟨rfl, rfl⟩
  | accepted hnow h hshown =>
    obtain rfl := hnow.eq_of_timeless hnone
    rw [h]
    cases hshown with
    | @whole time' s hs htime' =>
      refine ⟨_, _, w', ts, hsubmit, hpassage, s, hs, wholeReport_congr ?_, rfl⟩
      intro hkeeps hvictory
      obtain ⟨last, hlast, hcount⟩ := htime' hkeeps hvictory
      obtain rfl := hlast.eq_of_timeless hnone
      exact Except.ok.inj (hcount.symm.trans htime)
    | cut _ _ _ ht hlate =>
      -- An empty reading is not late.
      rw [hnone _ ht] at hlate
      cases hlate
    | uncounted _ _ hlast hcount _ =>
      obtain rfl := hlast.eq_of_timeless hnone
      cases hcount.symm.trans htime

/-- A visit to the corridor, with a desk that remembers records. -/
def corridorVisit : Visit × Desk := ({ level := corridor }, { recorder := some {} })

theorem corridor_submit_validates_then_simulates :
    Desk.surroundings.Calm true Desk.RemembersRecords ∧ Desk.surroundings.Timeless Desk.RemembersRecords ∧
      corridorVisit.2.RemembersRecords ∧ corridorVisit.1.stepper.inFlight = false ∧
      ((some (.whole 4) : Option Number).getD (.whole 0)).truncate = .ok 4 ∧
      ∃ report v' w' ts,
        submit Desk.surroundings 0 (some "(d1)x2") (some (.whole 4)) corridorVisit = (.ok report, v', w') ∧
        Desk.surroundings.Passage corridorVisit.2 report.events report.record.toList ts w' ∧
        match corridorVisit.1.refusal? "(d1)x2" (.whole 4) with
        | some message => report = .rejected message ∧ v' = corridorVisit.1.timeChecked (.whole 4)
        | none => ∃ s, simulate corridor (Command.movesOf "(d1)x2") = some s ∧
            report = corridorVisit.1.wholeReport true (Walk.events corridor (Command.movesOf "(d1)x2"))
              (Command.read "(d1)x2").terms.length 4 s ∧
            v' = corridorVisit.1.walked (Command.read "(d1)x2").terms.length s :=
  have hremembers : corridorVisit.2.RemembersRecords := ⟨{}, rfl, rfl⟩
  ⟨Desk.calm, Desk.timeless, hremembers, rfl, rfl,
    submit_validates_then_simulates Desk.surroundings true Desk.RemembersRecords Desk.calm Desk.timeless
      corridorVisit.1 corridorVisit.2 hremembers rfl 0 "(d1)x2" (some (.whole 4)) 4 rfl⟩

/-! ### With a clock -/

theorem refusal?_eq_none {text : String} {now : Number} (h : v.refusal? text now = none) :
    v.completed = false ∧ v.timedOut = false := by
  rw [refusal?] at h
  split at h
  · cases h
  · rename_i hnew
    split at h
    · cases h
    · rename_i hearly
      exact ⟨Bool.eq_false_iff.mpr hnew, (Bool.or_eq_false_iff.mp (Bool.eq_false_iff.mpr hearly)).1⟩

theorem timeChecked_completed (v : Visit) (now : Number) : (v.timeChecked now).completed = v.completed := by
  rw [timeChecked]
  split
  · rfl
  · rfl

theorem success_of_outcome {report : Report} {s : Walk.State} (h : report.outcome = some s.outcome) :
    report.success = decide (s.outcome = .victory) := by
  rw [Report.success, h]
  exact decide_eq_decide.mpr Option.some_inj

/-- The record of a walk to its end, if any, is one of success. -/
theorem success_record_wholeReport (v : Visit) (keeps : Bool) (events : List Event) (commandsUsed : Nat) (time : Int)
    (s : Walk.State) : (v.wholeReport keeps events commandsUsed time s).record.map (·.success) =
      if decide (s.outcome = .victory) && keeps then some true else none := by
  rw [wholeReport]
  by_cases hrecorded : s.outcome = .victory ∧ keeps = true
  · rw [if_pos hrecorded, decide_eq_true hrecorded.1, hrecorded.2]
    rfl
  · have hnone : ¬(decide (s.outcome = .victory) && keeps) = true := by
      intro hboth
      rw [Bool.and_eq_true, decide_eq_true_iff] at hboth
      exact hrecorded hboth
    rw [if_neg hrecorded, if_neg hnone]
    rfl

/-- What a report tells about success, beside the visit that is left. -/
structure TellsSuccess (v : Visit) (keeps : Bool) (report : Report) (v' : Visit) : Prop where
  /-- A valid report tells a success exactly where the level was completed just now. -/
  completes : report.valid = true → (report.success = true ↔ v.completed = false ∧ v'.completed = true)
  /-- Where records are kept, it has one record of that success. -/
  recorded : report.valid = true → report.record.map (·.success) = if report.success && keeps then some true else none
  /-- Any other report leaves the level as it was. -/
  keepsLevel : report.valid = false → v'.completed = v.completed ∧ report.record = none
  /-- It still tells a success where time ran out while the event that tells the victory was shown. -/
  late : report.valid = false → (report.success = true ↔ v.timedOut = false ∧ v'.timedOut = true ∧
    ∃ e, report.events.getLast? = some e ∧ e.outcome = .victory)

theorem tellsSuccess_rejected (keeps : Bool) (message : String) {v' : Visit} (h : v'.completed = v.completed) :
    TellsSuccess v keeps (.rejected message) v' where
  completes := by rintro ⟨⟩
  recorded := by rintro ⟨⟩
  keepsLevel _ := ⟨h, rfl⟩
  late _ := by
    constructor
    · rintro ⟨⟩
    · rintro ⟨-, -, e, ⟨⟩, -⟩

theorem tellsSuccess_wholeReport (keeps : Bool) (events : List Event) (commandsUsed : Nat) (time : Int)
    (s : Walk.State) (hnew : v.completed = false) :
    TellsSuccess v keeps (v.wholeReport keeps events commandsUsed time s) (v.walked commandsUsed s) := by
  have hsuccess : (v.wholeReport keeps events commandsUsed time s).success = decide (s.outcome = .victory) :=
    success_of_outcome rfl
  refine ⟨fun _ => ?_, fun _ => ?_, ?_, ?_⟩
  · rw [hsuccess]
    exact ⟨fun hvictory => ⟨hnew, hvictory⟩, fun hdone => hdone.2⟩
  · rw [hsuccess]
    exact success_record_wholeReport v keeps events commandsUsed time s
  · rintro ⟨⟩
  · rintro ⟨⟩

theorem tellsSuccess_cutReport (keeps : Bool) {events : List Event} {e : Event} (commandsUsed : Nat) {s : Walk.State}
    (htime : v.timedOut = false) (he : events.getLast? = some e) (htold : s.ToldBy e) :
    TellsSuccess v keeps (cutReport events commandsUsed s) (v.brokenOff commandsUsed s) := by
  have hsuccess : (cutReport events commandsUsed s).success = decide (s.outcome = .victory) := success_of_outcome rfl
  refine ⟨?_, ?_, fun _ => ⟨rfl, rfl⟩, fun _ => ?_⟩
  · rintro ⟨⟩
  · rintro ⟨⟩
  · rw [hsuccess, decide_eq_true_iff, ← htold.outcome]
    constructor
    · intro hvictory
      exact ⟨htime, rfl, e, he, hvictory⟩
    · rintro ⟨-, -, last, hlast, hvictory⟩
      obtain rfl := Option.some.inj (he.symm.trans hlast)
      exact hvictory

/-- Every submission is answered by a report that tells of success as it should, but for a victory that was shown
    when time ran out. There is no report only where the elapsed seconds of a victory to be recorded have no whole
    part. -/
theorem submit_success_iff (env : Surroundings σ) (keeps : Bool) (within : σ → Prop) (hcalm : env.Calm keeps within)
    (v : Visit) (w : σ) (hw : within w) (hidle : v.stepper.inFlight = false) (depth : Nat) (text : String)
    (given : Option Number) :
    ∃ result v' w' es rs ts, submit env depth (some text) given (v, w) = (result, v', w') ∧
      env.Passage w es rs ts w' ∧
      match result with
      | .ok report => es = report.events ∧ rs = report.record.toList ∧ TellsSuccess v keeps report v'
      | .error error => keeps = true ∧ v'.completed = true ∧
          ∃ now reason, Elapsed given ts now ∧ now.truncate = .error reason ∧ error = .number reason := by
  obtain ⟨result, v', w', es, rs, ts, hsubmit, hpassage, hanswered⟩ := submit_answered hcalm hw hidle depth text given
  refine ⟨result, v', w', es, rs, ts, hsubmit, hpassage, ?_⟩
  cases hanswered with
  | completed h => exact ⟨rfl, rfl, tellsSuccess_rejected keeps _ rfl⟩
  | @refused now message hnow h => exact ⟨rfl, rfl, tellsSuccess_rejected keeps message (timeChecked_completed v now)⟩
  | accepted hnow h hshown =>
    obtain ⟨hnew, htime⟩ := refusal?_eq_none h
    cases hshown with
    | @whole time s hs htime' => exact ⟨rfl, rfl, tellsSuccess_wholeReport keeps _ _ time s hnew⟩
    | cut hes he htold ht hlate => exact ⟨rfl, rfl, tellsSuccess_cutReport keeps _ htime he htold⟩
    | @uncounted last reason s hkeeps hvictory hlast hcount hs =>
      exact ⟨hkeeps, decide_eq_true hvictory, last, reason, hlast, hcount, rfl⟩

/-- A visit to the corridor with a time limit, where the clock shows its end once the last event is shown. -/
def lateVisit : Visit × Rehearsal :=
  ({ level := { corridor with timeLimit := some (.whole 10) } }, {
    desk := { recorder := some {} }
    readings := some [.whole 0, .whole 1, .whole 2, .whole 3, .whole 10] })

theorem late_submit_success_iff :
    Rehearsal.surroundings.Calm true Rehearsal.Quiet ∧ lateVisit.2.Quiet ∧ lateVisit.1.stepper.inFlight = false ∧
      ∃ result v' w' es rs ts, submit Rehearsal.surroundings 0 (some "(d1)x2") none lateVisit = (result, v', w') ∧
        Rehearsal.surroundings.Passage lateVisit.2 es rs ts w' ∧
        match result with
        | .ok report => es = report.events ∧ rs = report.record.toList ∧ TellsSuccess lateVisit.1 true report v'
        | .error error => true = true ∧ v'.completed = true ∧
            ∃ now reason, Elapsed none ts now ∧ now.truncate = .error reason ∧ error = .number reason :=
  have hquiet : lateVisit.2.Quiet := ⟨fun _ hplan => (nomatch hplan), {}, rfl, rfl⟩
  ⟨Rehearsal.calm, hquiet, rfl,
    submit_success_iff Rehearsal.surroundings true Rehearsal.Quiet Rehearsal.calm lateVisit.1 lateVisit.2 hquiet rfl 0
      "(d1)x2" none⟩

/-- There a success is reported while the level is not completed and nothing is recorded. -/
theorem late_success_completes_nothing :
    ∃ report v' w', submit Rehearsal.surroundings 0 (some "(d1)x2") none lateVisit = (.ok report, v', w') ∧
      report.success = true ∧ report.valid = false ∧ report.record = none ∧ v'.completed = false := by
  have hanswer : (match submit Rehearsal.surroundings 0 (some "(d1)x2") none lateVisit with
    | (.ok report, v', _) =>
      decide (report.success = true ∧ report.valid = false ∧ report.record = none ∧ v'.completed = false)
    | (.error _, _) => false) = true := by decide +kernel
  split at hanswer
  · rename_i report v' w' hsubmit
    exact ⟨report, v', w', hsubmit, of_decide_eq_true hanswer⟩
  · cases hanswer

end Visit
end GridWalk
