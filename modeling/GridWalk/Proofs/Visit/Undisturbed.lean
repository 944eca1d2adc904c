import GridWalk.Proofs.Visit.Serving

/-! What a submission comes to where displays ask for nothing, whether records are kept or taken. It is turned away,
    or it is late, or its walk is broken off by the clock, or the whole walk is shown and then decides where the
    character stands. -/

namespace GridWalk
open Walk (Stepper Event simulate)

variable {σ : Type} {env : Surroundings σ}

namespace Surroundings

/-- Displays ask for nothing. -/
def Undisturbed (env : Surroundings σ) : Prop := ∀ e w, (env.display e w).1 = []

/-- The surroundings without any record kept. -/
def unrecorded (env : Surroundings σ) : Surroundings σ := { env with keepsRecords := fun _ => false }

theorem Undisturbed.calm (h : env.Undisturbed) : env.unrecorded.Calm false fun _ => True where
  unasking e w _ := h e w
  keepsRecords _ _ := rfl
  taken _ _ _ hkeeps := absurd hkeeps Bool.false_ne_true
  display _ _ _ := trivial
  record _ _ _ := trivial
  clock _ _ := trivial
  note _ _ _ := trivial

theorem Passage.of_unrecorded {w w' : σ} {es : List Event} {rs : List Record} {ts : List (Option Number)}
    (h : env.unrecorded.Passage w es rs ts w') : env.Passage w es rs ts w' := by
  induction h with
  | refl w => exact .refl w
  | displayed e _ ih => exact .displayed e ih
  | recorded r _ ih => exact .recorded r ih
  | read _ ih => exact .read ih
  | noted n _ ih => exact .noted n ih

/-- Somewhere on the way a record is refused, or the clock shows seconds that have no whole part. -/
def FailsToRecord (env : Surroundings σ) (w : σ) : Prop :=
  ∃ es ts w', env.Passage w es [] ts w' ∧ ((∃ r, (env.record r w').1 ≠ .ok ()) ∨
    ∃ error, ((env.clock w').1.getD (.whole 0)).truncate = .error error)

theorem FailsToRecord.of_passage {w w' : σ} {es : List Event} {ts : List (Option Number)}
    (p : env.Passage w es [] ts w') (h : env.FailsToRecord w') : env.FailsToRecord w := by
  obtain ⟨es', ts', w'', p', h⟩ := h
  exact ⟨_, _, w'', p.trans p', h⟩

end Surroundings

namespace Visit
open Surroundings

variable {v : Visit} {w : σ} {serve : Request → Act σ Unit}

/-- Following a walk has nothing to do with records. -/
theorem follow_unrecorded (env : Surroundings σ) (serve : Request → Act σ Unit) (fuel : Nat) (course : Course) :
    follow env.unrecorded serve fuel course = follow env serve fuel course := by
  induction fuel generalizing course with
  | zero => rfl
  | succ fuel ih =>
    simp only [follow, ih]
    rfl

/-- What a submission comes to while events are displayed and records made: its result and the visit that is left. -/
inductive Submitted (env : Surroundings σ) (w : σ) (v : Visit) (text : Option String) :
    List Event → List Record → Except VisitError Report → Visit → Prop
  | turnedAway {report : Report} (h : v.completed = true ∨ v.timedOut = true ∨ v.rejection? text ≠ none)
    (hreport : report.valid = false) : Submitted env w v text [] [] (.ok report) v
  | late {report : Report} (hnew : v.completed = false) (hreport : report.valid = false) :
    Submitted env w v text [] [] (.ok report) v.overdue
  | cut {report : Report} {es : List Event} (commandsUsed : Nat) (s : Walk.State) (hnew : v.completed = false)
    (hreport : report.valid = false) : Submitted env w v text es [] (.ok report) (v.brokenOff commandsUsed s)
  | walked {moves : List Move} {s : Walk.State} {rs : List Record} {report : Report} (commandsUsed : Nat)
    (hnew : v.completed = false) (htime : v.timedOut = false) (haccepted : v.rejection? text = none)
    (hs : simulate v.level moves = some s) (hrs : ∀ r ∈ rs, r.success = true) (hreport : report.valid = true) :
    Submitted env w v text (Walk.events v.level moves) rs (.ok report) (v.walked commandsUsed s)
  | unrecorded {moves : List Move} {s : Walk.State} {rs : List Record} {e : VisitError} (commandsUsed : Nat)
    (hnew : v.completed = false) (hs : simulate v.level moves = some s) (hrs : ∀ r ∈ rs, r.success = true)
    (hfails : env.FailsToRecord w) :
    Submitted env w v text (Walk.events v.level moves) rs (.error e) (v.walked commandsUsed s)

/-- What concluding a walk comes to: a valid report, or an error where nothing could be recorded. -/
inductive Concluded (env : Surroundings σ) (w : σ) : Except VisitError Report → Prop
  | reported {report : Report} (h : report.valid = true) : Concluded env w (.ok report)
  | failed {e : VisitError} (h : env.FailsToRecord w) : Concluded env w (.error e)

theorem keepRecord_failed {success : Bool} {commandsUsed : Nat} {elapsed : Number} {energized : Bool} {e : VisitError}
    {w₁ : σ} {ts : List (Option Number)} (p : env.Passage w [] [] ts w₁) (v : Visit)
    (helapsed : elapsed = (env.clock w).1.getD (.whole 0))
    (h : (keepRecord env success commandsUsed elapsed energized (v, w₁)).1 = .error e) : env.FailsToRecord w := by
  obtain ⟨recording, w₂, hkeep, hrecording⟩ := keepRecord_recording env success commandsUsed elapsed energized v w₁
  rw [hkeep] at h
  cases hrecording with
  | unkept | taken => cases h
  | uncounted _ htime => exact ⟨[], [], w, .refl w, .inr ⟨_, helapsed ▸ htime⟩⟩
  | @refused time _ _ _ hrefused =>
    let r : Record := { level := v.level.number, commandsUsed, timeTaken := time, energized, success }
    exact ⟨[], ts, w₁, p, .inl ⟨r, fun htaken => nomatch hrefused.symm.trans htaken⟩⟩

/-- A victory is concluded by a look at the clock, and with records of success only. -/
theorem conclude_won (env : Surroundings σ) (commandsUsed : Nat) {course : Course} (v : Visit) (w : σ)
    (hvictory : course.state.outcome = .victory) :
    ∃ result w' rs ts, conclude env commandsUsed none course (v, w) =
        (result, { v with completed := true, position := course.state.position }, w') ∧
      env.Passage w [] rs ts w' ∧ (∀ r ∈ rs, r.success = true) ∧ Concluded env w result := by
  let u : Visit := { v with completed := true, position := course.state.position }
  let elapsed := (env.clock w).1.getD (.whole 0)
  have hread : readElapsed env none (u, w) = (.ok elapsed, u, (env.clock w).2) := rfl
  have p : env.Passage w [] [] [(env.clock w).1] (env.clock w).2 := .read (.refl _)
  obtain ⟨recording, w₂, hkeep, hrecording⟩ :=
    keepRecord_recording env true commandsUsed elapsed course.state.energized u (env.clock w).2
  obtain ⟨rs, p', hrs⟩ := hrecording.passage
  have hsuccess : ∀ r ∈ rs, r.success = true := by
    intro r hr
    obtain ⟨time, -, rfl⟩ := hrs r hr
    rfl
  rw [conclude, if_pos hvictory, Act.modify_bind_apply, Act.bind_of_ok hread]
  cases recording with
  | error e =>
    have hfails := keepRecord_failed p u rfl (congrArg Prod.fst hkeep)
    exact ⟨_, w₂, rs, _, Act.bind_of_error hkeep, p.trans p', hsuccess, .failed hfails⟩
  | ok record => exact ⟨_, w₂, rs, _, Act.bind_of_ok hkeep, p.trans p', hsuccess, .reported rfl⟩

/-- A walk that came to its end is concluded, and it leaves the visit as walked. -/
theorem conclude_walked (env : Surroundings σ) (commandsUsed : Nat) (course : Course) (w : σ)
    (hnew : v.completed = false) : ∃ result w' rs ts, conclude env commandsUsed none course
        ({ v with lastCommands := commandsUsed }.walking (.resting course.state), w) =
          (result, v.walked commandsUsed course.state, w') ∧
      env.Passage w [] rs ts w' ∧ (∀ r ∈ rs, r.success = true) ∧ Concluded env w result := by
  by_cases hvictory : course.state.outcome = .victory
  · rw [walked_of_victory v commandsUsed hvictory]
    exact conclude_won env commandsUsed _ w hvictory
  · rw [walked_of_ne_victory commandsUsed hnew hvictory]
    exact ⟨_, w, [], [], conclude_of_ne_victory env false commandsUsed none 0 w hvictory, .refl w, nofun, .reported rfl⟩

/-- The walk of an accepted text is broken off by the clock, or it comes to its end. -/
theorem walkProgram_submitted (h : env.Undisturbed) (serve : Request → Act σ Unit) {text : Option String}
    (program : Program) (w : σ) (hidle : v.stepper.inFlight = false) (hnew : v.completed = false)
    (htime : v.timedOut = false) (haccepted : v.rejection? text = none) :
    ∃ result v' w' es rs ts, walkProgram env serve program none (v, w) = (result, v', w') ∧
      env.Passage w es rs ts w' ∧ Submitted env w v text es rs result v' := by
  let n := program.length
  let st : Stepper := .ready { position := v.level.start } program.unroll
  let u : Visit := { v with lastCommands := n }
  obtain ⟨w₁, p₁, hprogram⟩ := walkProgram_passage env serve program none w hidle
  have hsound : st.Sound u.level := Stepper.sound_ready (.initial v.level) rfl
  obtain ⟨course, v₂, w₂, es, ts, hfollow, p₂, -, -, hfollowed⟩ := follow_followed h.calm serve u w₁ st
    { state := { position := v.level.start } } trivial rfl hsound htime (Nat.le_refl _) rfl rfl
  rw [follow_unrecorded] at hfollow
  have hpassage := p₁.trans p₂.of_unrecorded
  generalize hout : course.timedOut = out at hfollowed
  cases hfollowed with
  | whole hdrain =>
    obtain ⟨rfl, hs⟩ := whole_of_drain hdrain
    have hwalk := hprogram.trans (Act.bind_of_ok (breakingOff_of_idle hfollow rfl))
    rw [hout, if_neg Bool.false_ne_true] at hwalk
    obtain ⟨result, w₃, rs, ts', hconclude, p₃, hrs, hconcluded⟩ := conclude_walked env n course w₂ hnew
    have hall := hpassage.trans p₃
    rw [List.append_nil] at hall
    refine ⟨result, _, w₃, _, rs, _, hwalk.trans hconclude, hall, ?_⟩
    cases hconcluded with
    | reported hreport => exact .walked n hnew htime haccepted hs hrs hreport
    | failed hfails => exact .unrecorded n hnew hs hrs (hfails.of_passage hpassage)
  | cut =>
    have hwalk := hprogram.trans (Act.bind_of_ok (breakingOff_of_idle hfollow rfl))
    rw [hout, if_pos rfl] at hwalk
    exact ⟨_, _, w₂, es, [], _, hwalk, hpassage, .cut n course.state hnew rfl⟩

/-- Every submission where displays ask for nothing, timed by the clock. -/
theorem submit_submitted (h : env.Undisturbed) (hidle : v.stepper.inFlight = false) (depth : Nat) (text : Option String)
    (w : σ) : ∃ result v' w' es rs ts, submit env depth text none (v, w) = (result, v', w') ∧
      env.Passage w es rs ts w' ∧ Submitted env w v text es rs result v' := by
  cases hdone : v.completed with
  | true =>
    have hsubmit : submit env depth text none (v, w) = (.ok (.rejected completedMessage), v, w) := by
      rw [submit, submitServing, Act.visit_bind_apply, hdone]
      rfl
    exact ⟨_, v, w, [], [], [], hsubmit, .refl w, .turnedAway (.inl hdone) rfl⟩
  | false =>
    obtain ⟨ts, w', p, ⟨report, hreport, hreason, hsubmit⟩ | ⟨now, report, hreport, -, -, hsubmit⟩ |
      ⟨t, rfl, haccepts, hnew, htime, hsubmit⟩⟩ := submitServing_judged env (serve env depth) text none v w
    · exact ⟨_, v, w', [], [], ts, hsubmit, p, .turnedAway hreason hreport⟩
    · exact ⟨_, v.overdue, w', [], [], ts, hsubmit, p, .late hdone hreport⟩
    · have haccepted : v.rejection? (some t) = none := Option.isNone_iff_eq_none.mp haccepts
      obtain ⟨result, v', w'', es, rs, ts', hwalk, p', hsubmitted⟩ :=
        walkProgram_submitted h (serve env depth) (Command.read t).terms w' hidle hnew htime haccepted
      refine ⟨result, v', w'', es, rs, _, hsubmit.trans hwalk, p.trans p', ?_⟩
      cases hsubmitted with
      | turnedAway hreason hreport => exact .turnedAway hreason hreport
      | late hnew hreport => exact .late hnew hreport
      | cut n s hnew hreport => exact .cut n s hnew hreport
      | walked n hnew htime haccepted hs hrs hreport => exact .walked n hnew htime haccepted hs hrs hreport
      | unrecorded n hnew hs hrs hfails => exact .unrecorded n hnew hs hrs (hfails.of_passage p)

end Visit
end GridWalk
