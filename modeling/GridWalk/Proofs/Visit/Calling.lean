import GridWalk.Proofs.Visit.Account
import GridWalk.Proofs.Visit.Serving

/-! What callers of a visit come to, in any surroundings, also where they call from within each other's
    submissions. The account of the visit goes on with what they do. A walk that is underway when they are asked for
    something is as it was when they are done, or it is over and no event of it is left to be acknowledged. Unlike
    requests that are served, callers need not let a failure pass, so the commands counted last may have changed. -/

namespace GridWalk

open Visit
open Walk (Stepper Event)

variable {σ α β : Type} {o : Opening σ} {ds later : List Deed} {s : Visit × σ} {v v' : Visit} {w w' : σ}
  {text : String}

namespace Visit

/-- An account goes on by deeds to what is left; they, the result and the visit left are as described. -/
def Extends (o : Opening σ) (ds : List Deed) (out : Except VisitError α × Visit × σ)
    (post : Except VisitError α → List Deed → Visit → Prop) : Prop :=
  ∃ later, Account o (ds ++ later) out.2 ∧ post out.1 later out.2.1

namespace Extends
variable {out : Except VisitError α × Visit × σ} {post mid : Except VisitError α → List Deed → Visit → Prop}

theorem done {result : Except VisitError α} (h : Account o ds (v, w)) (hpost : post result [] v) :
    Extends o ds (result, v, w) post := by
  refine ⟨[], ?_, hpost⟩
  rwa [List.append_nil]

theorem mono {post' : Except VisitError α → List Deed → Visit → Prop} (h : Extends o ds out post)
    (himp : ∀ result later v', post result later v' → post' result later v') : Extends o ds out post' := by
  obtain ⟨later, hacc, hpost⟩ := h
  exact ⟨later, hacc, himp _ _ _ hpost⟩

theorem exists_eq (h : Extends o ds out post) :
    ∃ result later v w, out = (result, v, w) ∧ Account o (ds ++ later) (v, w) ∧ post result later v := by
  obtain ⟨later, hacc, hpost⟩ := h
  exact ⟨out.1, later, out.2.1, out.2.2, rfl, hacc, hpost⟩

theorem append (first : List Deed)
    (h : Extends o (ds ++ first) out fun result later v' => post result (first ++ later) v') :
    Extends o ds out post := by
  obtain ⟨later, hacc, hpost⟩ := h
  rw [List.append_assoc] at hacc
  exact ⟨first ++ later, hacc, hpost⟩

theorem attempt {act : Act σ α} {next : Except VisitError α → Act σ β}
    {post : Except VisitError β → List Deed → Visit → Prop} (h : Extends o ds (act s) mid)
    (hnext : ∀ result later v' w', Account o (ds ++ later) (v', w') → mid result later v' →
      Extends o (ds ++ later) (next result (v', w')) fun result later' v' => post result (later ++ later') v') :
    Extends o ds (Act.attempt act next s) post := by
  obtain ⟨later, hacc, hmid⟩ := h
  exact append later (hnext _ later _ _ hacc hmid)

theorem bind {act : Act σ α} {next : α → Act σ β} {post : Except VisitError β → List Deed → Visit → Prop}
    (h : Extends o ds (act s) mid)
    (hok : ∀ a later v' w', Account o (ds ++ later) (v', w') → mid (.ok a) later v' →
      Extends o (ds ++ later) (next a (v', w')) fun result later' v' => post result (later ++ later') v')
    (herror : ∀ e later v', mid (.error e) later v' → post (.error e) later v') :
    Extends o ds ((act >>= next) s) post := by
  obtain ⟨later, hacc, hmid⟩ := h
  rw [Act.bind_apply]
  rcases hact : act s with ⟨result, v', w'⟩
  rw [hact] at hacc hmid
  cases result with
  | error e => exact ⟨later, hacc, herror e later v' hmid⟩
  | ok a => exact append later (hok a later v' w' hacc hmid)

/-- What is heard of something is a deed as well. -/
theorem heard {act : Act σ α} {deed : Except VisitError α → Deed}
    (hdeed : ∀ ds result v w, Does o.env o.hear o.direct ds (v, w) (deed result) (v, o.hear (deed result) w))
    (h : Extends o ds (act s) mid) : Extends o ds (Act.heard o.hear deed act s) fun result later v' =>
      ∃ first, later = first ++ [deed result] ∧ mid result first v' := by
  obtain ⟨later, hacc, hmid⟩ := h
  rcases hact : act s with ⟨result, v', w'⟩
  rw [hact] at hacc hmid
  rw [Act.heard, hact]
  refine ⟨later ++ [deed result], ?_, later, rfl, hmid⟩
  rw [← List.append_assoc]
  exact hacc.did (hdeed _ _ _ _)

end Extends

/-! ### What callers leave -/

/-- A text that is underway is still walked. -/
def InStep (ds : List Deed) (v : Visit) : Prop := textUnderway ds ≠ none → v.stepper.inFlight = true

/-- The walk underway is left as it was, or none is underway and none shows an event. -/
inductive Leaves (ds : List Deed) (v : Visit) (later : List Deed) : Visit → Prop
  | same (commands : Nat) (hnow : textUnderway (ds ++ later) = textUnderway ds) :
    Leaves ds v later { v with lastCommands := commands }
  | gone {v' : Visit} (hnone : v'.stepper.shownEvent? = none) (hnow : textUnderway (ds ++ later) = none) :
    Leaves ds v later v'

theorem inStep_of_none (h : textUnderway ds = none) : InStep ds v := fun hsome => absurd h hsome

theorem InStep.underway_of_idle (h : InStep ds v) (hidle : v.stepper.inFlight = false) : textUnderway ds = none := by
  cases hnow : textUnderway ds with
  | none => rfl
  | some text =>
    have hfly := h (hnow ▸ Option.some_ne_none text)
    exact absurd (hidle.symm.trans hfly) Bool.false_ne_true

theorem Leaves.inStep (h : Leaves ds v later v') (hv : InStep ds v) : InStep (ds ++ later) v' := by
  cases h with
  | same commands hnow => exact fun hsome => hv (hnow ▸ hsome)
  | gone hnone hnow => exact inStep_of_none hnow

theorem Leaves.underway_of_none (h : Leaves ds v later v') (hnone : textUnderway ds = none) :
    textUnderway (ds ++ later) = none := by
  cases h with
  | same commands hnow => exact hnow.trans hnone
  | gone _ hnow => exact hnow

theorem Leaves.refl (ds : List Deed) (v : Visit) : Leaves ds v [] v :=
  .same v.lastCommands (congrArg textUnderway (List.append_nil ds))

theorem Leaves.trans {v₁ : Visit} {later' : List Deed} (h : Leaves ds v later v₁)
    (h' : Leaves (ds ++ later) v₁ later' v') : Leaves ds v (later ++ later') v' := by
  cases h' with
  | gone hnone' hnow' => exact .gone hnone' (List.append_assoc .. ▸ hnow')
  | same commands hnow' =>
    rw [List.append_assoc] at hnow'
    cases h with
    | same commands' hnow => exact .same commands (hnow'.trans hnow)
    | gone hnone hnow => exact .gone hnone (hnow'.trans hnow)

/-- What is given up is over. -/
theorem Leaves.of_idle (hidle : v'.stepper.inFlight = false) (hnow : textUnderway (ds ++ later) = none) :
    Leaves ds v later v' := .gone (Stepper.shownEvent?_of_idle hidle) hnow

theorem Extends.after {v₁ : Visit} {out : Except VisitError α × Visit × σ}
    (h : Extends o (ds ++ later) out fun _ later' v' => Leaves (ds ++ later) v₁ later' v')
    (hfirst : Leaves ds v later v₁) : Extends o (ds ++ later) out fun _ later' v' => Leaves ds v (later ++ later') v' :=
  h.mono fun _ _ _ hrest => hfirst.trans hrest

/-! ### Time and departures -/

/-- What comes of a look at the time: it is not late, or it was late before, or it is late now. -/
inductive TimeTold (v : Visit) : Except VisitError Bool → List Deed → Visit → Prop
  | early : TimeTold v (.ok false) [] v
  | late : TimeTold v (.ok true) [] v
  | up : TimeTold v (.ok true) [.outOfTime] v.overdue

theorem TimeTold.leaves {result : Except VisitError Bool} (h : v.TimeTold result later v') (ds : List Deed) :
    Leaves ds v later v' := by
  cases h with
  | early | late => exact .refl ds v
  | up => exact .of_idle v.stepper.inFlight_abort (textUnderway_concat ds _)

theorem checkTime_extends (h : Account o ds (v, w)) (elapsed : Number) :
    Extends o ds (checkTime o.env elapsed (v, w)) v.TimeTold := by
  obtain ⟨w', hcheck, p⟩ := checkTime_passage o.env elapsed v w
  rw [hcheck]
  cases htime : v.timedOut with
  | true => exact .done (h.passed p) .late
  | false =>
    cases hlate : v.isOverdue elapsed with
    | false => exact .done (h.passed p) .early
    | true => exact ⟨[.outOfTime], (h.passed p).did (.outOfTime w' htime hlate), .up⟩

theorem clockRunsOut_extends (h : Account o ds (v, w)) : Extends o ds (clockRunsOut o.env (v, w)) v.TimeTold := by
  have hread := h.passed (.read (.refl (o.env.clock w).2))
  rw [clockRunsOut_apply]
  cases (o.env.clock w).1 with
  | none => exact .done hread .early
  | some now => exact checkTime_extends hread now

theorem leave_extends (h : Account o ds (v, w)) (given : Option Number) :
    Extends o ds (Act.heard o.hear .left (leave o.env given) (v, w)) fun result later v' =>
      later = [.left result] ∧ v' = v.aborted := by
  obtain ⟨elapsed, ts, result, w₁, w₂, hleave, p, hrecording⟩ := leave_passage o.env given v w
  rw [Act.heard, hleave]
  exact ⟨[.left result], (h.passed p).did (.left hrecording), rfl, rfl⟩

theorem restart_extends (h : Account o ds (v, w)) :
    Extends o ds (Act.heard o.hear (fun _ => .renewed) (restart o.env) (v, w)) fun _ later v' =>
      later = [.renewed] ∧ v' = v.renewed := by
  obtain ⟨w', hrestart, p⟩ := restart_passage o.env v w
  rw [Act.heard, hrestart]
  exact ⟨[.renewed], (h.passed p).did (.renewed v w'), rfl, rfl⟩

/-- Only where no walk is in progress one is begun behind the visit. -/
theorem startWalk_extends (h : Account o ds (v, w)) (hv : InStep ds v) (hdirect : o.direct) (moves : List Move) :
    Extends o ds (startWalk o.env moves (v, w)) fun _ later v' => Leaves ds v later v' := by
  cases hfly : v.stepper.inFlight with
  | true =>
    rw [startWalk_of_inFlight o.env moves w hfly]
    exact .done h (.refl ds v)
  | false =>
    obtain ⟨w', hstart, p⟩ := startWalk_passage o.env moves w hfly
    have hnone := hv.underway_of_idle hfly
    have hcall := Stepper.call_start_of_idle v.level moves hfly
    have hover : textUnderway (ds ++ [.called (.start moves)]) = none := (textUnderway_concat ds _).trans hnone
    rw [hstart]
    exact ⟨[.called (.start moves)], (h.passed p).did (.called w' hdirect hnone hcall), .gone rfl hover⟩

/-! ### Walks -/

/-- Requests are served as callers do. -/
def Attends (o : Opening σ) (serve : Request → Act σ Unit) : Prop :=
  ∀ r ds v w, Account o ds (v, w) → InStep ds v →
    Extends o ds (serve r (v, w)) fun _ later v' => Leaves ds v later v'

variable {serve : Request → Act σ Unit}

theorem each_extends (hserve : Attends o serve) (requests : List Request) (h : Account o ds (v, w))
    (hv : InStep ds v) :
    Extends o ds (Act.each requests serve (v, w)) fun _ later v' => Leaves ds v later v' := by
  induction requests generalizing ds v w with
  | nil => exact .done h (.refl ds v)
  | cons r rest ih =>
    rw [Act.each]
    refine .bind (hserve r ds v w h hv) ?_ fun _ _ _ hfailed => hfailed
    intro _ later v₁ w₁ h₁ hfirst
    exact (ih h₁ (hfirst.inStep hv)).after hfirst

/-- A walk was followed to its end, or it was stopped before and goes on at most until it is broken off. -/
inductive Pursued (text : String) (ds : List Deed) : Except VisitError Course → Visit → Prop
  | landed {course : Course} {v : Visit} (hearly : course.timedOut = false) (hidle : v.stepper.inFlight = false)
    (hnow : textUnderway ds = some text) (hs : v.stepper.state? = some course.state) : Pursued text ds (.ok course) v
  | stopped {result : Except VisitError Course} {v : Visit}
    (hout : ∀ course, result = .ok course → course.timedOut = true) (hv : InStep ds v) : Pursued text ds result v

theorem Pursued.failed {e : VisitError} (hv : InStep ds v) : Pursued text ds (.error e) v := .stopped nofun hv

/-- A round shows an event and attends to what is asked for meanwhile. The walk is followed further only where it is
    then as it was when the event was shown. -/
theorem follow_round_extends (hserve : Attends o serve) (fuel : Nat) (course : Course) {e : Event} {st : Stepper}
    (h : Account o ds (v, w)) (hnow : textUnderway ds = some text) (hfly : v.stepper.inFlight = true)
    (hstep : v.stepper.step v.level = .ok (e, st))
    (hnext : ∀ ds v' w' st₂, Account o ds (v', w') → textUnderway ds = some text → st.acknowledge v'.level = .ok st₂ →
      v'.stepper = st₂ → Extends o ds (follow o.env serve fuel { course with
        events := course.events.push e, state := st₂.state?.getD (st.state?.getD course.state) } (v', w'))
        fun result later v' => Pursued text (ds ++ later) result v') :
    Extends o ds (follow o.env serve (fuel + 1) course (v, w)) fun result later v' =>
      Pursued text (ds ++ later) result v' := by
  obtain ⟨w₁, h₁, p₁⟩ := stepWalk_passage o.env w hstep
  have hshown : Account o ds (v.walking st, (o.env.display e w₁).2) :=
    ((h.passed p₁).proceeded hnow (.step hstep)).passed (.displayed e (.refl _))
  have hopen : InStep ds (v.walking st) := fun _ => Stepper.inFlight_of_shown (Stepper.shownEvent?_of_step hstep).2
  rw [follow_of_shown serve fuel course hfly h₁]
  refine .bind (each_extends hserve _ hshown hopen) ?_ fun _ _ _ hserved => .failed (hserved.inStep hopen)
  intro _ later v₂ w₂ h₂ hserved
  refine .bind (clockRunsOut_extends h₂) ?_ fun _ _ _ htold => nomatch htold
  intro late later' v₃ w₃ h₃ htold
  have hopen₃ := (htold.leaves _).inStep (hserved.inStep hopen)
  cases htold with
  | late | up =>
    refine .done h₃ (.stopped ?_ ?_)
    · rintro _ ⟨⟩
      rfl
    · simpa only [List.append_assoc, List.append_nil] using hopen₃
  | early =>
    rw [if_neg Bool.false_ne_true]
    rw [List.append_nil] at h₃ hopen₃
    cases hack : v₂.stepper.acknowledge v₂.level with
    | error e =>
      rw [Act.bind_of_error (acknowledge_of_error o.env w₃ hack), List.append_nil]
      exact .done h₃ (.failed (by simpa only [List.append_nil] using hopen₃))
    | ok st₂ =>
      cases hserved with
      | gone hnone =>
        -- Where no event is shown, none is acknowledged.
        obtain ⟨⟨e', hheld⟩, -⟩ := Stepper.shownEvent?_of_acknowledge hack
        exact absurd (hnone.symm.trans hheld) (Option.some_ne_none e').symm
      | same commands hkept =>
        have hnow' := hkept.trans hnow
        obtain ⟨w₄, h₄, p₄⟩ := acknowledge_passage o.env w₃ hack
        rw [Act.bind_of_ok h₄, trackWalk_bind_apply, walkState_bind_apply, List.append_nil]
        refine (hnext _ _ w₄ st₂ ((h₃.passed p₄).proceeded hnow' (.acknowledge hack)) hnow' hack rfl).mono ?_
        intro result later' v' hpursued
        rwa [List.append_assoc] at hpursued

/-- Whatever is asked for meanwhile, a walk is followed to its end, or it is stopped before. -/
theorem follow_extends (hserve : Attends o serve) (fuel : Nat) (course : Course) (h : Account o ds (v, w))
    (hnow : textUnderway ds = some text) (hs : v.stepper.state? = some course.state) (hearly : course.timedOut = false)
    (hnone : v.stepper.shownEvent? = none) (hfuel : v.stepper.workLeft ≤ fuel) :
    Extends o ds (follow o.env serve fuel course (v, w)) fun result later v' =>
      Pursued text (ds ++ later) result v' := by
  have hrests : ∀ {fuel : Nat} {course : Course} {ds : List Deed} {v : Visit} {w : σ}, Account o ds (v, w) →
      textUnderway ds = some text → v.stepper.state? = some course.state → course.timedOut = false →
      v.stepper.inFlight = false → Extends o ds (follow o.env serve fuel course (v, w)) fun result later v' =>
        Pursued text (ds ++ later) result v' := by
    intro fuel course ds v w h hnow hs hearly hidle
    rw [follow_of_idle serve fuel course hidle]
    exact .done h (.landed hearly hidle (by rwa [List.append_nil]) hs)
  -- Each round lowers the work that is left, which the fuel bounds.
  induction fuel generalizing course ds v w with
  | zero => exact hrests h hnow hs hearly (Stepper.idle_of_workLeft hfuel)
  | succ fuel ih =>
    cases hfly : v.stepper.inFlight with
    | false => exact hrests h hnow hs hearly hfly
    | true =>
      obtain ⟨e, st, hstep⟩ := Stepper.exists_step v.level hfly hnone
      obtain ⟨st', hack', hround⟩ := Stepper.round_of_step hstep
      refine follow_round_extends hserve fuel course h hnow hfly hstep fun ds' v' w' st₂ h' hnow' hack hst => ?_
      have hlevel : v'.level = v.level := h'.level_eq.1.trans h.level_eq.1.symm
      rw [hlevel] at hack
      obtain rfl : st₂ = st' := Except.ok.inj (hack.symm.trans hack')
      obtain ⟨s, hs'⟩ := (h'.walks text hnow').onWalk.exists_state
      have hless : st₂.workLeft ≤ fuel := Nat.le_of_lt_succ (Nat.lt_of_lt_of_le (Stepper.workLeft_round hround) hfuel)
      subst hst
      refine ih _ h' hnow' ?_ hearly (Stepper.shownEvent?_of_acknowledge hack).2 hless
      rw [hs', Option.getD_some]

/-- What is broken off is over. -/
theorem breakingOff_extends {act : Act σ Course}
    (h : Extends o ds (act s) fun result later v' => Pursued text (ds ++ later) result v') :
    Extends o ds (breakingOff o.env act s) fun result later v' =>
      v'.stepper.inFlight = false ∧ Pursued text (ds ++ later) result v' := by
  obtain ⟨later, hacc, hpursued⟩ := h
  rcases hact : act s with ⟨result, v, w⟩
  rw [hact] at hacc hpursued
  rw [breakingOff, hact]
  dsimp only
  cases hfly : v.stepper.inFlight with
  | false => exact ⟨later, hacc, hfly, hpursued⟩
  | true =>
    have hnotes := hacc.passed (.foldl_note (v.interruptedNotes ++ v.stepper.abortNotes v.level) w)
    have hbroken := hnotes.did (.brokenOff _ hfly)
    rw [List.append_assoc] at hbroken
    refine ⟨later ++ [.brokenOff], hbroken, v.stepper.inFlight_abort, ?_⟩
    cases hpursued with
    | landed hearly hidle => exact absurd (hidle.symm.trans hfly) Bool.false_ne_true
    | stopped hout =>
      refine .stopped hout (inStep_of_none ?_)
      rw [← List.append_assoc, textUnderway_concat]
      rfl

/-- A walk that came to its end is told of. -/
theorem conclude_extends (given : Option Number) {course : Course} (h : Account o ds (v, w))
    (hnow : textUnderway ds = some text) (hidle : v.stepper.inFlight = false)
    (hs : v.stepper.state? = some course.state) :
    Extends o ds (conclude o.env (Command.termCount text) given course (v, w)) fun _ later v' =>
      v'.stepper.inFlight = false ∧ textUnderway (ds ++ later) = none := by
  by_cases hvictory : course.state.outcome = .victory
  · obtain ⟨elapsed, ts, recording, result, w₁, w₂, p₁, hrecording, hconclude⟩ :=
      conclude_recording o.env (Command.termCount text) given v w hvictory
    rw [hconclude]
    exact ⟨_, (h.passed p₁).did (.won hnow hidle hs hvictory hrecording), hidle, textUnderway_concat ds _⟩
  · rw [conclude_of_ne_victory o.env false _ given 0 w hvictory]
    exact ⟨_, h.did (.landed w hnow hidle hs hvictory), hidle, textUnderway_concat ds _⟩

/-! ### Submissions -/

/-- What comes of a submission: it is turned away, or time is up, or it is refused because of a walk in progress, or
    its walk begins and is over in the end. -/
inductive Judged (ds : List Deed) (v : Visit) (text : Option String) :
    Except VisitError Report → List Deed → Visit → Prop
  | turnedAway (report : Report) : Judged ds v text (.ok report) [] v
  | late (report : Report) : Judged ds v text (.ok report) [.outOfTime] v.overdue
  | refused {t : String} (ht : text = some t) (hfly : v.stepper.inFlight = true) :
    Judged ds v text (.error (.stepper .busy)) [.refused t] { v with lastCommands := Command.termCount t }
  | walked {t : String} {result : Except VisitError Report} {later : List Deed} {v' : Visit} (ht : text = some t)
    (hidle : v.stepper.inFlight = false) (hidle' : v'.stepper.inFlight = false)
    (hnow : textUnderway (ds ++ .begun t :: later) = none) : Judged ds v text result (.begun t :: later) v'

theorem Judged.leaves {text : Option String} {result : Except VisitError Report}
    (h : Judged ds v text result later v') : Leaves ds v later v' := by
  cases h with
  | turnedAway => exact .refl ds v
  | late => exact .of_idle v.stepper.inFlight_abort (textUnderway_concat ds _)
  | refused => exact .same _ (textUnderway_concat ds _)
  | walked _ _ hidle' hnow => exact .of_idle hidle' hnow

/-- An accepted text is walked to an end where no walk is in progress, and refused elsewhere. -/
theorem walkProgram_extends (hserve : Attends o serve) (given : Option Number) (h : Account o ds (v, w))
    (hlast : ds.getLast? = some (.submits (some text))) (haccepts : v.options.accepts text = true)
    (hnew : v.completed = false) (hearly : v.timedOut = false) :
    Extends o ds (walkProgram o.env serve (Command.read text).terms given (v, w)) (Judged ds v (some text)) := by
  cases hfly : v.stepper.inFlight with
  | true =>
    obtain ⟨w₁, p₁, hprogram⟩ := walkProgram_of_inFlight o.env serve (Command.read text).terms given w hfly
    rw [hprogram]
    exact ⟨_, (h.did (.refused w hlast haccepts hfly)).passed p₁, .refused rfl hfly⟩
  | false =>
    obtain ⟨w₁, p₁, hprogram⟩ := walkProgram_passage o.env serve (Command.read text).terms given w hfly
    have hbegun := (h.passed p₁).did (.begun w₁ hlast haccepts hfly hnew hearly)
    have hpursued := breakingOff_extends (follow_extends hserve (v.beginning text).stepper.workLeft
      { state := { position := v.level.start } } hbegun (textUnderway_concat ds _) rfl rfl rfl (Nat.le_refl _))
    have hwalked : ∀ {result : Except VisitError Report} {later : List Deed} {v' : Visit},
        v'.stepper.inFlight = false → textUnderway (ds ++ [.begun text] ++ later) = none →
        Judged ds v (some text) result (.begun text :: later) v' := by
      intro result later v' hidle hnow
      rw [List.append_assoc] at hnow
      exact .walked rfl hfly hidle hnow
    rw [hprogram]
    refine .append [.begun text] (.bind hpursued ?_ ?_)
    · rintro course later v₃ w₃ h₃ ⟨hidle, hstopped⟩
      cases hstopped with
      | landed hout _ hnow hs =>
        rw [hout, if_neg Bool.false_ne_true]
        refine (conclude_extends given h₃ hnow hidle hs).mono ?_
        rintro result later' v' ⟨hidle', hnow'⟩
        rw [List.append_assoc] at hnow'
        exact hwalked hidle' hnow'
      | stopped hout hopen =>
        rw [hout course rfl, if_pos rfl]
        refine .done h₃ (hwalked hidle ?_)
        rw [List.append_nil]
        exact hopen.underway_of_idle hidle
    · rintro e later v₃ ⟨hidle, hstopped⟩
      cases hstopped with
      | stopped hout hopen => exact hwalked hidle (hopen.underway_of_idle hidle)

theorem submitServing_extends (hserve : Attends o serve) (text : Option String) (given : Option Number)
    (h : Account o ds (v, w)) (hlast : ds.getLast? = some (.submits text)) :
    Extends o ds (submitServing o.env serve text given (v, w)) (Judged ds v text) := by
  obtain ⟨ts, w', p, ⟨report, hsubmit⟩ | ⟨now, report, hearly, hlate, hsubmit⟩ |
    ⟨t, rfl, haccepts, hnew, hearly, hsubmit⟩⟩ := submitServing_cases o.env serve text given v w
  · rw [hsubmit]
    exact .done (h.passed p) (.turnedAway report)
  · rw [hsubmit]
    exact ⟨_, (h.passed p).did (.outOfTime w' hearly hlate), .late report⟩
  · rw [hsubmit]
    exact walkProgram_extends hserve given (h.passed p) hlast haccepts hnew hearly

/-- A submission is what was judged between its beginning and its answer. -/
theorem submission_extends (hserve : Attends o serve) (text : Option String) (given : Option Number)
    (h : Account o ds (v, w)) : Extends o ds (submission o.env o.hear serve text given (v, w)) fun result later v' =>
      ∃ mid, later = .submits text :: (mid ++ [.answered text result]) ∧
        Judged (ds ++ [.submits text]) v text result mid v' := by
  have htold := h.did (.submits v w text)
  have hanswered : ∀ ds result v w, Does o.env o.hear o.direct ds (v, w) (.answered text result)
      (v, o.hear (.answered text result) w) := fun ds result v w => .answered v w text result
  rw [submission, Act.tell, Act.outside_bind_apply]
  refine .append [.submits text]
    ((Extends.heard hanswered (submitServing_extends hserve text given htold (List.getLast?_concat ..))).mono ?_)
  rintro result later v' ⟨mid, rfl, hjudged⟩
  exact ⟨mid, rfl, hjudged⟩

theorem Judged.leaves_submission {text : Option String} {result : Except VisitError Report} {mid : List Deed}
    (h : Judged (ds ++ [.submits text]) v text result mid v') :
    Leaves ds v (.submits text :: (mid ++ [.answered text result])) v' := by
  have htold : Leaves ds v [.submits text] v := .same v.lastCommands (textUnderway_concat ds _)
  have hanswered : Leaves (ds ++ [.submits text] ++ mid) v' [.answered text result] v' :=
    .same v'.lastCommands (textUnderway_concat _ _)
  exact htold.trans (h.leaves.trans hanswered)

end Visit

/-! ### Callers -/

/-- What a caller does is in the account of the visit, and it leaves a walk underway as it was, or none. -/
theorem Caller.act_extends (c : Caller σ o.direct) (h : Account o ds (v, w)) (hv : InStep ds v) :
    Extends o ds (c.act o.env o.hear (v, w)) fun _ later v' => Leaves ds v later v' := by
  induction c generalizing ds v w with
  | done | fail => exact .done h (.refl ds v)
  | look next ih => exact ih (v, w) h hv
  | submit text given serve next ihserve ihnext =>
    have hserve : Attends o fun r => (serve r).act o.env o.hear := fun r ds v w h hv => ihserve r h hv
    refine .attempt (submission_extends hserve text given h) ?_
    rintro result later v' w' h' ⟨mid, rfl, hjudged⟩
    have hfirst := hjudged.leaves_submission
    exact (ihnext result h' (hfirst.inStep hv)).after hfirst
  | checkTime elapsed next ih =>
    refine .attempt (.heard (fun ds result v w => .timeChecked v w result) (checkTime_extends h elapsed)) ?_
    rintro result later v' w' h' ⟨first, rfl, htold⟩
    have hheard : Leaves (ds ++ first) v' [.timeChecked result] v' := .same v'.lastCommands (textUnderway_concat _ _)
    have hfirst := (htold.leaves ds).trans hheard
    exact (ih result h' (hfirst.inStep hv)).after hfirst
  | leave given next ih =>
    refine .attempt (leave_extends h given) ?_
    rintro result later v' w' h' ⟨rfl, rfl⟩
    have hfirst : Leaves ds v [.left result] v.aborted := .of_idle v.stepper.inFlight_abort (textUnderway_concat ds _)
    exact (ih result h' (hfirst.inStep hv)).after hfirst
  | restart next ih =>
    refine .attempt (restart_extends h) ?_
    rintro result later v' w' h' ⟨rfl, rfl⟩
    have hfirst : Leaves ds v [.renewed] v.renewed := .of_idle v.stepper.inFlight_abort (textUnderway_concat ds _)
    exact (ih h' (hfirst.inStep hv)).after hfirst
  | start hdirect moves next ih =>
    refine .attempt (startWalk_extends h hv hdirect moves) ?_
    intro result later v' w' h' hfirst
    exact (ih result h' (hfirst.inStep hv)).after hfirst

/-- Between the calls of players no text is underway. -/
theorem Caller.extends_of_none (c : Caller σ o.direct) (h : Account o ds s) (hnone : textUnderway ds = none) :
    ∃ result later v w, c.act o.env o.hear s = (result, v, w) ∧ Account o (ds ++ later) (v, w) ∧
      textUnderway (ds ++ later) = none := by
  obtain ⟨result, later, v, w, hact, hacc, hleaves⟩ := (c.act_extends h (inStep_of_none hnone)).exists_eq
  exact ⟨result, later, v, w, hact, hacc, hleaves.underway_of_none hnone⟩

end GridWalk
