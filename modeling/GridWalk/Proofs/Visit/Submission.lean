import GridWalk.Proofs.Visit.Following

/-! What a submission comes to in calm surroundings. It is refused, or its walk is shown whole, or its walk is
    broken off because the clock ran out. Each time the report and the visit that is left are told in full. -/

namespace GridWalk

open Walk (Stepper Event simulate)

namespace Visit
open Surroundings

variable {σ : Type} {env : Surroundings σ} {keeps : Bool} {within : σ → Prop} {v : Visit} {w : σ}

/-! ### What is told and what is left -/

/-- What a player is told where a text is not walked, by the first check that fails. -/
def refusal? (v : Visit) (text : String) (elapsed : Number) : Option String :=
  if v.completed then some completedMessage
  else if v.timedOut || v.isOverdue elapsed then some timeoutMessage
  else (v.options.validate text).map (·.message)

/-- The visit once the time was checked for a submission. -/
def timeChecked (v : Visit) (elapsed : Number) : Visit :=
  if !v.completed && !v.timedOut && v.isOverdue elapsed then { v with timedOut := true, position := v.level.start }
  else v

/-- The visit after a walk that came to its end. -/
def walked (v : Visit) (commandsUsed : Nat) (s : Walk.State) : Visit :=
  { v with
    position := if s.outcome.isHazard then v.level.start else s.position
    completed := s.outcome = .victory
    lastWalk := some s
    lastCommands := commandsUsed
    stepper := .resting s }

/-- The visit after a walk that was broken off when time was up. -/
def brokenOff (v : Visit) (commandsUsed : Nat) (s : Walk.State) : Visit :=
  { v with
    position := v.level.start, timedOut := true, lastWalk := some s, lastCommands := commandsUsed
    stepper := .resting s }

/-- The record that the level was completed. -/
def completion (v : Visit) (commandsUsed : Nat) (timeTaken : Int) (s : Walk.State) : Record :=
  { level := v.level.number, commandsUsed, timeTaken, energized := s.energized, success := true }

/-- The report on a walk that came to its end. -/
def wholeReport (v : Visit) (keeps : Bool) (events : List Event) (commandsUsed : Nat) (timeTaken : Int)
    (s : Walk.State) : Report where
  valid := true
  message := s.outcome.message
  outcome := some s.outcome
  events := events
  commandsUsed := commandsUsed
  walk := some s
  record := if s.outcome = .victory ∧ keeps = true then some (v.completion commandsUsed timeTaken s) else none

/-- The report on a walk that was broken off when time was up. -/
def cutReport (events : List Event) (commandsUsed : Nat) (s : Walk.State) : Report where
  valid := false
  message := timeoutMessage
  outcome := some s.outcome
  events := events
  commandsUsed := commandsUsed
  walk := some s

/-- The elapsed seconds are those given, else those of a reading, which are none where there is no clock. -/
inductive Elapsed : Option Number → List (Option Number) → Number → Prop
  | given {ts : List (Option Number)} (now : Number) : Elapsed (some now) ts now
  | read {ts : List (Option Number)} {t : Option Number} (h : t ∈ ts) : Elapsed none ts (t.getD (.whole 0))

/-- What walking a program comes to while events are displayed, records made and the readings `ts` taken: its
    result and the visit that is left. -/
inductive Shown (v : Visit) (keeps : Bool) (program : Program) (given : Option Number) (ts : List (Option Number)) :
    List Event → List Record → Except VisitError Report → Visit → Prop
  | whole {time : Int} {s : Walk.State} (hs : simulate v.level program.unroll = some s)
    (htime : keeps = true → s.outcome = .victory → ∃ last, Elapsed given ts last ∧ last.truncate = .ok time) :
    Shown v keeps program given ts (Walk.events v.level program.unroll)
      (v.wholeReport keeps (Walk.events v.level program.unroll) program.length time s).record.toList
      (.ok (v.wholeReport keeps (Walk.events v.level program.unroll) program.length time s)) (v.walked program.length s)
  | cut {es : List Event} {e : Event} {t : Option Number} {s : Walk.State}
    (hes : es <+: Walk.events v.level program.unroll) (he : es.getLast? = some e) (htold : s.ToldBy e) (ht : t ∈ ts)
    (hlate : v.isLate t = true) :
    Shown v keeps program given ts es [] (.ok (cutReport es program.length s)) (v.brokenOff program.length s)
  /-- The elapsed seconds of a victory have no whole part to be recorded. -/
  | uncounted {last : Number} {error : NumberError} {s : Walk.State} (hkeeps : keeps = true)
    (hvictory : s.outcome = .victory) (hlast : Elapsed given ts last) (htime : last.truncate = .error error)
    (hs : simulate v.level program.unroll = some s) :
    Shown v keeps program given ts (Walk.events v.level program.unroll) [] (.error (.number error))
      (v.walked program.length s)

/-- What a submission comes to while events are displayed, records made and the readings `ts` taken: its result and
    the visit that is left. -/
inductive Answered (v : Visit) (keeps : Bool) (text : String) (given : Option Number) (ts : List (Option Number)) :
    List Event → List Record → Except VisitError Report → Visit → Prop
  | completed (h : v.completed = true) : Answered v keeps text given ts [] [] (.ok (.rejected completedMessage)) v
  | refused {now : Number} {message : String} (hnow : Elapsed given ts now) (h : v.refusal? text now = some message) :
    Answered v keeps text given ts [] [] (.ok (.rejected message)) (v.timeChecked now)
  | accepted {now : Number} {es : List Event} {rs : List Record} {result : Except VisitError Report} {v' : Visit}
    (hnow : Elapsed given ts now) (h : v.refusal? text now = none)
    (hshown : Shown v keeps (Command.read text).terms given ts es rs result v') :
    Answered v keeps text given ts es rs result v'

theorem Elapsed.mono {given : Option Number} {ts ts' : List (Option Number)} {now : Number}
    (h : Elapsed given ts now) (hsub : ts ⊆ ts') : Elapsed given ts' now := by
  cases h with
  | given => exact .given now
  | read ht => exact .read (hsub ht)

theorem Shown.mono {program : Program} {given : Option Number} {ts ts' : List (Option Number)} {es : List Event}
    {rs : List Record} {result : Except VisitError Report} {v' : Visit}
    (h : Shown v keeps program given ts es rs result v') (hsub : ts ⊆ ts') :
    Shown v keeps program given ts' es rs result v' := by
  cases h with
  | whole hs htime =>
    refine .whole hs fun hkeeps hvictory => ?_
    obtain ⟨last, hlast, htime⟩ := htime hkeeps hvictory
    exact ⟨last, hlast.mono hsub, htime⟩
  | cut hes he htold ht hlate => exact .cut hes he htold (hsub ht) hlate
  | uncounted hkeeps hvictory hlast htime hs => exact .uncounted hkeeps hvictory (hlast.mono hsub) htime hs

/-- Without a clock the elapsed seconds are those given, or none. -/
theorem Elapsed.eq_of_timeless {given : Option Number} {ts : List (Option Number)} {now : Number}
    (h : Elapsed given ts now) (hts : ∀ t ∈ ts, t = none) : now = given.getD (.whole 0) := by
  cases h with
  | given => rfl
  | read ht => rw [hts _ ht]

/-! ### The actions of a submission -/

theorem startWalk_of_idle (env : Surroundings σ) (moves : List Move) (w : σ) (hidle : v.stepper.inFlight = false) :
    startWalk env moves (v, w) = (.ok { position := v.level.start },
      { v with stepper := .ready { position := v.level.start } moves }, env.noted (Stepper.startNotes v.level) w) := by
  have hstart : v.stepper.start v.level moves = .ok (.ready { position := v.level.start } moves) := by
    rw [Stepper.start, hidle]
    rfl
  rw [startWalk, Act.visit_bind_apply, hstart]
  rfl

theorem startWalk_passage (env : Surroundings σ) (moves : List Move) (w : σ) (hidle : v.stepper.inFlight = false) :
    ∃ w', startWalk env moves (v, w) = (.ok { position := v.level.start },
        { v with stepper := .ready { position := v.level.start } moves }, w') ∧ env.Passage w [] [] [] w' :=
  ⟨_, startWalk_of_idle env moves w hidle, .foldl_note (Stepper.startNotes v.level) w⟩

/-- What leaves no walk in progress is not broken off. -/
theorem breakingOff_of_idle {α : Type} {act : Act σ α} {s : Visit × σ} {a : α} {v' : Visit} {w' : σ}
    (h : act s = (.ok a, v', w')) (hidle : v'.stepper.inFlight = false) : breakingOff env act s = (.ok a, v', w') := by
  rw [breakingOff, h]
  change (if v'.stepper.inFlight = true then _ else _) = _
  rw [hidle]
  rfl

theorem keepRecord_of_keeps_none (hcalm : Calm env false within) (hw : within w) (success : Bool) (commandsUsed : Nat)
    (elapsed : Number) (energized : Bool) :
    keepRecord env success commandsUsed elapsed energized (v, w) = (.ok none, v, w) := by
  rw [keepRecord, Act.outside_bind_apply, hcalm.keepsRecords w hw]
  rfl

theorem keepRecord_of_truncate (hcalm : Calm env true within) (hw : within w) (success : Bool) (commandsUsed : Nat)
    (energized : Bool) {elapsed : Number} {time : Int} (htime : elapsed.truncate = .ok time) :
    ∃ record w', record = { level := v.level.number, commandsUsed, timeTaken := time, energized, success } ∧
      keepRecord env success commandsUsed elapsed energized (v, w) = (.ok (some record), v, w') ∧
      env.Passage w [] [record] [] w' := by
  have htaken := hcalm.taken { level := v.level.number, commandsUsed, timeTaken := time, energized, success } w hw rfl
  refine ⟨_, _, rfl, ?_, .recorded _ (.refl _)⟩
  rw [keepRecord, Act.outside_bind_apply, hcalm.keepsRecords w hw, if_pos rfl, Act.visit_bind_apply, htime, Act.lift,
    Act.pure_bind_apply, Act.outside_bind_apply, htaken, Act.lift, Act.pure_bind_apply]
  rfl

theorem keepRecord_of_truncate_error (hcalm : Calm env true within) (hw : within w) (success : Bool)
    (commandsUsed : Nat) (energized : Bool) {elapsed : Number} {error : NumberError}
    (htime : elapsed.truncate = .error error) :
    keepRecord env success commandsUsed elapsed energized (v, w) = (.error (.number error), v, w) := by
  rw [keepRecord, Act.outside_bind_apply, hcalm.keepsRecords w hw, if_pos rfl, Act.visit_bind_apply, htime]
  rfl

theorem readElapsed_passage (env : Surroundings σ) (given : Option Number) (w : σ) :
    ∃ now ts w', (∀ v, readElapsed env given (v, w) = (.ok now, v, w')) ∧ env.Passage w [] [] ts w' ∧
      Elapsed given ts now := by
  cases given with
  | some now => exact ⟨now, [], w, fun _ => rfl, .refl w, .given now⟩
  | none => exact ⟨_, _, _, fun _ => rfl, .read (.refl _), .read List.mem_cons_self⟩

theorem walked_of_victory (v : Visit) (commandsUsed : Nat) {s : Walk.State} (hs : s.outcome = .victory) :
    v.walked commandsUsed s = { v with
      position := s.position, completed := true, lastWalk := some s, lastCommands := commandsUsed
      stepper := .resting s } := by
  rw [walked, hs]
  rfl

theorem walked_of_ne_victory (commandsUsed : Nat) {s : Walk.State} (hnew : v.completed = false)
    (hs : s.outcome ≠ .victory) : v.walked commandsUsed s = { v with
      position := if s.outcome.isHazard then v.level.start else s.position
      lastWalk := some s, lastCommands := commandsUsed, stepper := .resting s } := by
  rw [walked, decide_eq_false hs, ← hnew]

theorem conclude_of_ne_victory (env : Surroundings σ) (keeps : Bool) (commandsUsed : Nat) (given : Option Number)
    (time : Int) {course : Course} (w : σ) (hs : course.state.outcome ≠ .victory) :
    conclude env commandsUsed given course (v, w) =
      (.ok (v.wholeReport keeps course.events.toList commandsUsed time course.state),
        { v with position := if course.state.outcome.isHazard then v.level.start else course.state.position }, w) := by
  have hnone : ¬(course.state.outcome = .victory ∧ keeps = true) := fun h => hs h.1
  rw [conclude, if_neg hs, wholeReport, if_neg hnone]
  split
  · rfl
  · rfl

/-- A victory is recorded where records are kept and the elapsed seconds have a whole part. -/
theorem conclude_of_victory (hcalm : Calm env keeps within) (commandsUsed : Nat) (given : Option Number)
    {course : Course} (hw : within w) (hs : course.state.outcome = .victory) :
    ∃ last result rs ts w', Elapsed given ts last ∧ env.Passage w [] rs ts w' ∧
      conclude env commandsUsed given course (v, w) =
        (result, { v with completed := true, position := course.state.position }, w') ∧
      ((∃ time, (keeps = true → last.truncate = .ok time) ∧
          result = .ok (v.wholeReport keeps course.events.toList commandsUsed time course.state) ∧
          rs = (v.wholeReport keeps course.events.toList commandsUsed time course.state).record.toList) ∨
        (∃ error, keeps = true ∧ last.truncate = .error error ∧ result = .error (.number error) ∧ rs = [])) := by
  let u : Visit := { v with completed := true, position := course.state.position }
  obtain ⟨last, ts, w₁, h₁, p₁, hlast⟩ := readElapsed_passage env given w
  have hwithin := p₁.stays hcalm hw
  have hconclude : conclude env commandsUsed given course (v, w) =
      (keepRecord env true commandsUsed last course.state.energized >>= fun record => return {
        valid := true
        message := course.state.outcome.message
        outcome := some course.state.outcome
        events := course.events.toList
        commandsUsed
        walk := some course.state
        record } : Act σ Report) (u, w₁) := by
    rw [conclude, if_pos hs, Act.modify_bind_apply, Act.bind_of_ok (h₁ u)]
  cases keeps with
  | false =>
    have h₂ := keepRecord_of_keeps_none (v := u) hcalm hwithin true commandsUsed last course.state.energized
    have hnone : ¬(course.state.outcome = .victory ∧ false = true) := fun h => Bool.false_ne_true h.2
    refine ⟨last, _, [], ts, w₁, hlast, p₁, hconclude.trans (Act.bind_of_ok h₂), .inl ⟨0, ?_, ?_, ?_⟩⟩
    · rintro ⟨⟩
    · rw [wholeReport, if_neg hnone]
    · rw [wholeReport, if_neg hnone]
      rfl
  | true =>
    cases htime : last.truncate with
    | ok time =>
      obtain ⟨record, w₂, hrecord, h₂, p₂⟩ :=
        keepRecord_of_truncate (v := u) hcalm hwithin true commandsUsed course.state.energized htime
      have hboth : course.state.outcome = .victory ∧ true = true := ⟨hs, rfl⟩
      refine ⟨last, _, [record], ts, w₂, hlast, ?_, hconclude.trans (Act.bind_of_ok h₂), .inl ⟨time, ?_, ?_, ?_⟩⟩
      · exact List.append_nil ts ▸ p₁.trans p₂
      · exact fun _ => htime
      · rw [wholeReport, if_pos hboth, hrecord]
        rfl
      · rw [wholeReport, if_pos hboth, hrecord]
        rfl
    | error error =>
      have h₂ := keepRecord_of_truncate_error (v := u) hcalm hwithin true commandsUsed course.state.energized htime
      exact ⟨last, _, [], ts, w₁, hlast, p₁, hconclude.trans (Act.bind_of_error h₂), .inr ⟨error, rfl, htime, rfl, rfl⟩⟩

/-! ### Submissions -/

theorem whole_of_drain {level : Level} {moves : List Move} {es : List Event} {s : Walk.State}
    (h : (Stepper.ready { position := level.start } moves).drain level = (es, .resting s)) :
    Walk.events level moves = es ∧ simulate level moves = some s := by
  have hwhole : Walk.whole level moves = (((Stepper.ready { position := level.start } moves).drain level).1,
      ((Stepper.ready { position := level.start } moves).drain level).2.state?) := rfl
  rw [Walk.events, simulate, hwhole, h]
  exact ⟨rfl, rfl⟩

/-- Where no walk is in progress the walk of a program begins, which is followed and broken off at the latest when it
    cannot be followed further. -/
theorem walkProgram_of_idle (env : Surroundings σ) (serve : Request → Act σ Unit) (program : Program)
    (given : Option Number) (w : σ) (hidle : v.stepper.inFlight = false) :
    let st : Stepper := .ready { position := v.level.start } program.unroll
    walkProgram env serve program given (v, w) =
      (breakingOff env (follow env serve st.workLeft { state := { position := v.level.start } }) >>= fun course =>
        if course.timedOut then return cutReport course.events.toList program.length course.state
        else conclude env program.length given course : Act σ Report)
        ({ v with lastCommands := program.length }.walking st, env.noted (Stepper.startNotes v.level)
          (env.noted [entry .debug s!"Running {program.length} commands, {program.unitSteps} unit steps"] w)) := by
  let v₁ : Visit := { v with lastCommands := program.length }
  have hstart := fun w => startWalk_of_idle (v := v₁) env program.unroll w hidle
  rw [walkProgram, Act.modify_bind_apply, Act.note_bind_apply, Act.bind_of_ok (hstart _), trackWalk_bind_apply,
    Act.visit_bind_apply]
  rfl

theorem walkProgram_passage (env : Surroundings σ) (serve : Request → Act σ Unit) (program : Program)
    (given : Option Number) (w : σ) (hidle : v.stepper.inFlight = false) :
    let st : Stepper := .ready { position := v.level.start } program.unroll
    ∃ w', env.Passage w [] [] [] w' ∧ walkProgram env serve program given (v, w) =
      (breakingOff env (follow env serve st.workLeft { state := { position := v.level.start } }) >>= fun course =>
        if course.timedOut then return cutReport course.events.toList program.length course.state
        else conclude env program.length given course : Act σ Report)
        ({ v with lastCommands := program.length }.walking st, w') :=
  ⟨_, .trans (.foldl_note _ w) (.foldl_note _ _), walkProgram_of_idle env serve program given w hidle⟩

/-- A program is walked by following the walk of its moves from the start of the level, with one look at the clock for
    each event. -/
theorem walkProgram_followed (hcalm : Calm env keeps within) (serve : Request → Act σ Unit) (program : Program)
    (given : Option Number) (hw : within w) (hidle : v.stepper.inFlight = false) (htime : v.timedOut = false) :
    ∃ (course : Course) (v' : Visit) (w' : σ) (ts : List (Option Number)), env.Passage w course.events.toList [] ts w' ∧
      ts.length = course.events.toList.length ∧
      Followed { v with lastCommands := program.length } (.ready { position := v.level.start } program.unroll)
        course.events.toList ts course.state course.timedOut v' ∧
      walkProgram env serve program given (v, w) =
        (if course.timedOut then return cutReport course.events.toList program.length course.state
        else conclude env program.length given course : Act σ Report) (v', w') := by
  -- The commands are counted before the walk begins, so it is this visit that is followed.
  let v₁ : Visit := { v with lastCommands := program.length }
  let st : Stepper := .ready { position := v.level.start } program.unroll
  obtain ⟨w₁, p₁, hprogram⟩ := walkProgram_passage env serve program given w hidle
  have hsound : st.Sound v₁.level := Stepper.sound_ready (.initial v.level) rfl
  obtain ⟨course, v', w', es, ts, hfollow, p₂, hlength, hevents, hfollowed⟩ := follow_followed hcalm serve v₁ w₁ st
    { state := { position := v.level.start } } (p₁.stays hcalm hw) rfl hsound htime (Nat.le_refl _) rfl rfl
  obtain rfl : course.events.toList = es := hevents
  have hrests : v'.stepper.inFlight = false := by
    generalize course.timedOut = out at hfollowed
    cases hfollowed with
    | whole => rfl
    | cut => rfl
  exact ⟨course, v', w', ts, p₁.trans p₂, hlength, hfollowed,
    hprogram.trans (Act.bind_of_ok (breakingOff_of_idle hfollow hrests))⟩

/-- What is shown of a program that was accepted is told in the report. -/
theorem walkProgram_shown (hcalm : Calm env keeps within) (serve : Request → Act σ Unit) (program : Program)
    (given : Option Number) (hw : within w) (hidle : v.stepper.inFlight = false) (htime : v.timedOut = false)
    (hnew : v.completed = false) :
    ∃ result v' w' es rs ts, walkProgram env serve program given (v, w) = (result, v', w') ∧
      env.Passage w es rs ts w' ∧ Shown v keeps program given ts es rs result v' := by
  obtain ⟨course, v₁, w₁, ts, p₁, -, hfollowed, hprogram⟩ :=
    walkProgram_followed hcalm serve program given hw hidle htime
  generalize hout : course.timedOut = out at hfollowed
  rw [hout] at hprogram
  cases hfollowed with
  | whole hdrain hearly =>
    obtain ⟨hes, hs⟩ := whole_of_drain hdrain
    by_cases hvictory : course.state.outcome = .victory
    · obtain ⟨last, result, rs, ts', w', hlast, p', h', hresult⟩ := conclude_of_victory hcalm program.length given
        (v := { v with lastCommands := program.length }.walking (.resting course.state)) (p₁.stays hcalm hw) hvictory
      refine ⟨result, v.walked program.length course.state, w', course.events.toList, rs, ts ++ ts', ?_, ?_, ?_⟩
      · rw [walked_of_victory v program.length hvictory]
        exact hprogram.trans h'
      · exact List.append_nil course.events.toList ▸ p₁.trans p'
      · have hlast' := hlast.mono (List.subset_append_right ts ts')
        rcases hresult with ⟨time, htime, rfl, rfl⟩ | ⟨error, hkeeps, htime, rfl, rfl⟩
        · rw [← hes]
          exact .whole hs fun hkeeps _ => ⟨last, hlast', htime hkeeps⟩
        · rw [← hes]
          exact .uncounted hkeeps hvictory hlast' htime hs
    · -- Nothing is recorded, so any number of seconds may stand in the report.
      have hshown : Shown v keeps program given ts _ _
          (.ok (v.wholeReport keeps _ program.length 0 course.state)) _ :=
        .whole hs fun _ hwon => absurd hwon hvictory
      rw [hes, walked_of_ne_victory program.length hnew hvictory] at hshown
      refine ⟨_, _, w₁, _, _, ts,
        hprogram.trans (conclude_of_ne_victory env keeps program.length given 0 w₁ hvictory), ?_, hshown⟩
      rw [wholeReport, if_neg fun h => hvictory h.1]
      exact p₁
  | @cut es' e ts' t hes hpart htold hts hearly hlate =>
    have hlast : course.events.toList.getLast? = some e := by
      rw [hes]
      exact List.getLast?_concat
    have ht : t ∈ ts := by
      rw [hts]
      exact List.mem_append_right _ List.mem_cons_self
    exact ⟨_, _, w₁, course.events.toList, [], ts, hprogram, p₁, .cut hpart hlast htold ht hlate⟩

theorem timeChecked_eq (now : Number) (hnew : v.completed = false) (hidle : v.stepper.inFlight = false) :
    v.timeChecked now = if !v.timedOut && v.isOverdue now then v.overdue else v := by
  rw [timeChecked, overdue_of_idle hidle, hnew, Bool.not_false, Bool.true_and]

theorem timeChecked_of_early {now : Number} (h : v.isOverdue now = false) : v.timeChecked now = v := by
  rw [timeChecked, h, Bool.and_false]
  rfl

/-- Every submission of a text in calm surroundings is answered. -/
theorem submit_answered (hcalm : Calm env keeps within) (hw : within w) (hidle : v.stepper.inFlight = false)
    (depth : Nat) (text : String) (given : Option Number) :
    ∃ result v' w' es rs ts, submit env depth (some text) given (v, w) = (result, v', w') ∧
      env.Passage w es rs ts w' ∧ Answered v keeps text given ts es rs result v' := by
  rw [submit, submitServing, Act.visit_bind_apply]
  cases hnew : v.completed with
  | true => exact ⟨_, v, w, [], [], [], rfl, .refl w, .completed hnew⟩
  | false =>
    obtain ⟨now, ts, w₁, h₁, p₁, hnow⟩ := readElapsed_passage env given w
    obtain ⟨w₂, h₂, p₂⟩ := checkTime_passage (v := v) env now w₁
    have hwithin := p₂.stays hcalm (p₁.stays hcalm hw)
    rw [if_neg Bool.false_ne_true, Act.bind_of_ok (h₁ v), Act.bind_of_ok h₂]
    cases hlate : v.timedOut || v.isOverdue now with
    | true =>
      have hrefusal : v.refusal? text now = some timeoutMessage := by
        rw [refusal?, hnew, if_neg Bool.false_ne_true, hlate, if_pos rfl]
      refine ⟨_, v.timeChecked now, w₂, [], [], ts, ?_, List.append_nil ts ▸ p₁.trans p₂, .refused hnow hrefusal⟩
      rw [timeChecked_eq now hnew hidle]
      rfl
    | false =>
      obtain ⟨htime, hearly⟩ := Bool.or_eq_false_iff.mp hlate
      have hrefusal : v.refusal? text now = (v.options.validate text).map (·.message) := by
        rw [refusal?, hnew, if_neg Bool.false_ne_true, hlate, if_neg Bool.false_ne_true]
      rw [if_neg Bool.false_ne_true, hearly, Bool.and_false, if_neg Bool.false_ne_true, Act.visit_bind_apply]
      cases hvalid : v.options.validate text with
      | some rejection =>
        have hreason : v.rejection? (some text) = some rejection := hvalid
        rw [hvalid] at hrefusal
        rw [hreason]
        obtain ⟨w₃, h₃, p₃⟩ := Act.note_passage env
          [entry .info s!"Rejected commands {Text.quoted text}: {rejection.message}"] v w₂
        have hrefused : Answered v keeps text given ts [] [] (.ok (.rejected rejection.message)) _ :=
          .refused hnow hrefusal
        rw [timeChecked_of_early hearly] at hrefused
        exact ⟨_, v, w₃, [], [], ts, Act.bind_of_ok h₃, List.append_nil ts ▸ p₁.trans (p₂.trans p₃), hrefused⟩
      | none =>
        have hreason : v.rejection? (some text) = none := hvalid
        rw [hvalid] at hrefusal
        rw [hreason]
        obtain ⟨result, v', w', es, rs, ts', h', p', hshown⟩ := walkProgram_shown hcalm (serve env depth)
          (Command.read text).terms given hwithin hidle htime hnew
        exact ⟨result, v', w', es, rs, ts ++ ts', h', p₁.trans (p₂.trans p'),
          .accepted (hnow.mono (List.subset_append_left ts ts')) hrefusal
            (hshown.mono (List.subset_append_right ts ts'))⟩

end Visit
end GridWalk
