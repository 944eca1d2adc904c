import GridWalk.Proofs.Visit.Passage
import GridWalk.Proofs.Walk.Rounds
import GridWalk.Proofs.Walk.Soundness

/-! How a walk is followed in calm surroundings. Its events are displayed in order, with a look at the clock
    after each. Either no reading is late and the whole walk is shown, or the first late reading breaks it off
    at the event just shown. -/

namespace GridWalk.Visit
open Walk Surroundings

variable {σ : Type} {env : Surroundings σ} {keeps : Bool} {within : σ → Prop} {v : Visit} {w : σ}

/-- Whether a reading of the clock shows that time is up. -/
def isLate (v : Visit) : Option Number → Bool
  | none => false
  | some now => v.isOverdue now

theorem aborted_of_idle (h : v.stepper.inFlight = false) : v.aborted = v := by
  rw [aborted, Stepper.abort_of_idle h]

theorem overdue_of_idle (h : v.stepper.inFlight = false) :
    v.overdue = { v with timedOut := true, position := v.level.start } := by
  rw [overdue, aborted_of_idle h]

/-- What is left of a walk when time is up depends on its state only. -/
theorem overdue_walking {st : Stepper} {s : Walk.State} (h : st.state? = some s) :
    (v.walking st).overdue = (v.walking (.resting s)).overdue := by
  have hrest : st.abort = .resting s := Stepper.eq_resting st.inFlight_abort (st.state?_abort.trans h)
  change { v with stepper := st.abort, lastWalk := st.state?, timedOut := true, position := v.level.start } = _
  rw [hrest, h]
  rfl

/-! ### Single actions -/

@[simp] theorem trackWalk_bind_apply {α : Type} (next : Unit → Act σ α) (v : Visit) (w : σ) :
    (trackWalk >>= next) (v, w) = next () (v.walking v.stepper, w) := rfl

@[simp] theorem walkState_bind_apply {α : Type} (before : Walk.State) (next : Walk.State → Act σ α) (v : Visit) (w : σ) :
    (walkState before >>= next) (v, w) = next (v.stepper.state?.getD before) (v, w) := rfl

theorem checkTime_of_timedOut (env : Surroundings σ) (elapsed : Number) (w : σ) (h : v.timedOut = true) :
    checkTime env elapsed (v, w) = (.ok true, v, w) := by
  rw [checkTime, Act.visit_bind_apply, h]
  rfl

theorem checkTime_of_early (env : Surroundings σ) {elapsed : Number} (w : σ) (htime : v.timedOut = false)
    (hearly : v.isOverdue elapsed = false) : checkTime env elapsed (v, w) = (.ok false, v, w) := by
  rw [checkTime, Act.visit_bind_apply, htime, hearly]
  rfl

theorem checkTime_of_overdue (env : Surroundings σ) {elapsed : Number} (w : σ) (htime : v.timedOut = false)
    (hlate : v.isOverdue elapsed = true) : checkTime env elapsed (v, w) =
      (.ok true, v.overdue, env.noted (v.stepper.abortNotes v.level) (env.noted v.overdueNotes w)) := by
  rw [checkTime, Act.visit_bind_apply, htime, hlate]
  rfl

/-- Time that is up stays up; if it is up now, the walk in progress is broken off. -/
theorem checkTime_passage (env : Surroundings σ) (elapsed : Number) (v : Visit) (w : σ) :
    ∃ w', checkTime env elapsed (v, w) =
        (.ok (v.timedOut || v.isOverdue elapsed), if !v.timedOut && v.isOverdue elapsed then v.overdue else v, w') ∧
      env.Passage w [] [] [] w' := by
  cases htime : v.timedOut with
  | true => exact ⟨w, checkTime_of_timedOut env elapsed w htime, .refl w⟩
  | false =>
    cases hlate : v.isOverdue elapsed with
    | false => exact ⟨w, checkTime_of_early env w htime hlate, .refl w⟩
    | true => exact ⟨_, checkTime_of_overdue env w htime hlate, .trans (.foldl_note _ w) (.foldl_note _ _)⟩

theorem clockRunsOut_apply (env : Surroundings σ) (v : Visit) (w : σ) : clockRunsOut env (v, w) =
    (match (env.clock w).1 with
      | none => return false
      | some now => checkTime env now : Act σ Bool) (v, (env.clock w).2) := rfl

theorem clockRunsOut_of_early (env : Surroundings σ) (w : σ) (htime : v.timedOut = false)
    (hearly : v.isLate (env.clock w).1 = false) : clockRunsOut env (v, w) = (.ok false, v, (env.clock w).2) := by
  rw [clockRunsOut_apply]
  cases hnow : (env.clock w).1 with
  | none => rfl
  | some now =>
    rw [hnow] at hearly
    exact checkTime_of_early env _ htime hearly

theorem clockRunsOut_passage (env : Surroundings σ) (w : σ) (htime : v.timedOut = false) :
    ∃ w', clockRunsOut env (v, w) =
        (.ok (v.isLate (env.clock w).1), if v.isLate (env.clock w).1 then v.overdue else v, w') ∧
      env.Passage w [] [] [(env.clock w).1] w' := by
  have hpassage : ∀ {w'}, env.Passage (env.clock w).2 [] [] [] w' → env.Passage w [] [] [(env.clock w).1] w' := .read
  rw [clockRunsOut_apply]
  cases hnow : (env.clock w).1 with
  | none => exact ⟨_, rfl, hnow ▸ hpassage (.refl _)⟩
  | some now =>
    obtain ⟨w', h', p'⟩ := checkTime_passage env now v (env.clock w).2
    rw [htime, Bool.false_or, Bool.not_false, Bool.true_and] at h'
    exact ⟨w', h', hnow ▸ hpassage p'⟩

theorem stepWalk_of_ok (env : Surroundings σ) (w : σ) {e : Event} {st : Stepper}
    (h : v.stepper.step v.level = .ok (e, st)) : stepWalk env (v, w) =
      (.ok e, { v with stepper := st }, env.noted (v.stepper.stepNotes v.level) w) := by
  rw [stepWalk, Act.visit_bind_apply, h]
  rfl

theorem stepWalk_passage (env : Surroundings σ) (w : σ) {e : Event} {st : Stepper}
    (h : v.stepper.step v.level = .ok (e, st)) :
    ∃ w', stepWalk env (v, w) = (.ok e, { v with stepper := st }, w') ∧ env.Passage w [] [] [] w' :=
  ⟨_, stepWalk_of_ok env w h, .foldl_note (v.stepper.stepNotes v.level) w⟩

theorem acknowledge_of_ok (env : Surroundings σ) (w : σ) {st : Stepper} (h : v.stepper.acknowledge v.level = .ok st) :
    acknowledge env (v, w) =
      (.ok (), { v with stepper := st }, env.noted (v.stepper.acknowledgeNotes v.level) w) := by
  rw [acknowledge, Act.visit_bind_apply, h]
  rfl

theorem acknowledge_passage (env : Surroundings σ) (w : σ) {st : Stepper}
    (h : v.stepper.acknowledge v.level = .ok st) :
    ∃ w', acknowledge env (v, w) = (.ok (), { v with stepper := st }, w') ∧ env.Passage w [] [] [] w' :=
  ⟨_, acknowledge_of_ok env w h, .foldl_note (v.stepper.acknowledgeNotes v.level) w⟩

/-- Without a walk in progress there is nothing to follow. -/
theorem follow_of_idle (serve : Request → Act σ Unit) (fuel : Nat) (course : Course)
    (hidle : v.stepper.inFlight = false) : follow env serve fuel course (v, w) = (.ok course, v, w) := by
  cases fuel with
  | zero => rfl
  | succ fuel =>
    rw [follow, Act.visit_bind_apply, hidle]
    rfl

/-- What is left of a round once its event was shown: the requests of the display, and what follows them. -/
theorem follow_of_shown (serve : Request → Act σ Unit) (fuel : Nat) (course : Course) {e : Event} {st : Stepper}
    {w₁ : σ} (hfly : v.stepper.inFlight = true)
    (hstep : stepWalk env (v, w) = (.ok e, { v with stepper := st }, w₁)) : follow env serve (fuel + 1) course (v, w) =
      (Act.each (env.display e w₁).1 serve >>= fun _ => clockRunsOut env >>= fun late => do
        let course := { course with events := course.events.push e, state := st.state?.getD course.state }
        if late then return { course with timedOut := true }
        else
          acknowledge env
          trackWalk
          follow env serve fuel { course with state := ← walkState course.state } : Act σ Course)
        (v.walking st, (env.display e w₁).2) := by
  have hgoes : ¬(!v.stepper.inFlight) = true := by
    rw [hfly]
    exact Bool.false_ne_true
  rw [follow, Act.visit_bind_apply, if_neg hgoes, Act.bind_of_ok hstep, trackWalk_bind_apply, walkState_bind_apply,
    Act.outside_bind_apply]
  rfl

theorem follow_of_step (serve : Request → Act σ Unit) (fuel : Nat) (course : Course) {e : Event} {st st₁ : Stepper}
    {w₁ : σ} (hfly : st.inFlight = true)
    (hstep : stepWalk env (v.walking st, w) = (.ok e, { v.walking st with stepper := st₁ }, w₁))
    (hasked : (env.display e w₁).1 = []) : follow env serve (fuel + 1) course (v.walking st, w) =
      (clockRunsOut env >>= fun late => do
        let course := { course with events := course.events.push e, state := st₁.state?.getD course.state }
        if late then return { course with timedOut := true }
        else
          acknowledge env
          trackWalk
          follow env serve fuel { course with state := ← walkState course.state } : Act σ Course)
        (v.walking st₁, (env.display e w₁).2) := by
  have hshown := follow_of_shown (v := v.walking st) serve fuel course hfly hstep
  rw [hasked] at hshown
  exact hshown

/-! ### Whole walks -/

/-- How a walk was followed that came to `s` while the events `es` were displayed and the readings `ts` were
    taken: whether time ran out, and the visit that was left. -/
inductive Followed (v : Visit) (st : Stepper) (es : List Event) (ts : List (Option Number)) (s : Walk.State) :
    Bool → Visit → Prop
  /-- The whole walk was shown in time. -/
  | whole (hdrain : st.drain v.level = (es, .resting s)) (hearly : ∀ t ∈ ts, v.isLate t = false) :
    Followed v st es ts s false (v.walking (.resting s))
  /-- The walk was broken off when its last event so far was shown. -/
  | cut {es' : List Event} {e : Event} {ts' : List (Option Number)} {t : Option Number} (hes : es = es' ++ [e])
    (hpart : es <+: (st.drain v.level).1) (htold : s.ToldBy e) (hts : ts = ts' ++ [t])
    (hearly : ∀ t ∈ ts', v.isLate t = false) (hlate : v.isLate t = true) :
    Followed v st es ts s true (v.walking (.resting s)).overdue

theorem Followed.of_idle {st : Stepper} {s : Walk.State} (hidle : st.inFlight = false) (hstate : st.state? = some s) :
    Followed v st [] [] s false (v.walking st) := by
  obtain rfl := Stepper.eq_resting hidle hstate
  refine .whole (Stepper.drain_resting s) ?_
  intro t ht
  cases ht

theorem Followed.cons {st st' : Stepper} {e : Event} {es : List Event} {t : Option Number} {ts : List (Option Number)}
    {s : Walk.State} {out : Bool} {v' : Visit} (h : Followed v st' es ts s out v') (ht : v.isLate t = false)
    (hround : st.round v.level = .ok (e, st')) : Followed v st (e :: es) (t :: ts) s out v' := by
  have hdrain := Stepper.drain_of_ok hround
  have hcons : ∀ {ts : List (Option Number)}, (∀ t ∈ ts, v.isLate t = false) → ∀ t' ∈ t :: ts, v.isLate t' = false := by
    intro ts hearly t' ht'
    rcases List.mem_cons.mp ht' with rfl | ht'
    · exact ht
    · exact hearly t' ht'
  cases h with
  | whole hrest hearly =>
    refine .whole ?_ (hcons hearly)
    rw [hdrain, hrest]
  | @cut es' last ts' late hes hpart htold hts hearly hlate =>
    have hes' : e :: es = e :: es' ++ [last] := by rw [hes, List.cons_append]
    have hts' : t :: ts = t :: ts' ++ [late] := by rw [hts, List.cons_append]
    refine .cut hes' ?_ htold hts' (hcons hearly) hlate
    rw [hdrain]
    exact List.cons_prefix_cons.mpr ⟨rfl, hpart⟩

/-- A round that shows an event in time acknowledges it and goes on. -/
theorem follow_round_early (serve : Request → Act σ Unit) (fuel : Nat) (course : Course) {e : Event}
    {st st₁ st₂ : Stepper} (w : σ) (htime : v.timedOut = false) (hfly : st.inFlight = true)
    (hstep : st.step v.level = .ok (e, st₁))
    (hack : st₁.acknowledge v.level = .ok st₂)
    (hasked : (env.display e (env.noted (st.stepNotes v.level) w)).1 = [])
    (hearly : v.isLate (env.clock (env.display e (env.noted (st.stepNotes v.level) w)).2).1 = false) :
    follow env serve (fuel + 1) course (v.walking st, w) =
      follow env serve fuel { course with
        events := course.events.push e, state := st₂.state?.getD (st₁.state?.getD course.state) }
        (v.walking st₂, env.noted (st₁.acknowledgeNotes v.level)
          (env.clock (env.display e (env.noted (st.stepNotes v.level) w)).2).2) := by
  have h₁ : stepWalk env (v.walking st, w) =
      (.ok e, { v.walking st with stepper := st₁ }, env.noted (st.stepNotes v.level) w) := stepWalk_of_ok env w hstep
  have h₂ := clockRunsOut_of_early (v := v.walking st₁) env _ htime hearly
  rw [follow_of_step serve fuel course hfly h₁ hasked, Act.bind_of_ok h₂, if_neg Bool.false_ne_true,
    Act.bind_of_ok (acknowledge_of_ok (v := v.walking st₁) env _ hack)]
  rfl

/-- A round in calm surroundings shows one event and takes one reading, and goes on if the reading is not late. -/
theorem follow_round (hcalm : Calm env keeps within) (serve : Request → Act σ Unit) (fuel : Nat) (course : Course)
    {e : Event} {st st₁ st₂ : Stepper} (hw : within w) (htime : v.timedOut = false) (hfly : st.inFlight = true)
    (hstep : st.step v.level = .ok (e, st₁)) (hack : st₁.acknowledge v.level = .ok st₂) :
    ∃ t w', env.Passage w [e] [] [t] w' ∧ follow env serve (fuel + 1) course (v.walking st, w) =
      (let seen := { course with events := course.events.push e, state := st₁.state?.getD course.state }
      if v.isLate t then (.ok { seen with timedOut := true }, (v.walking st₁).overdue, w')
      else follow env serve fuel { seen with state := st₂.state?.getD seen.state } (v.walking st₂, w')) := by
  let w₁ := env.noted (st.stepNotes v.level) w
  have p₁ : env.Passage w [] [] [] w₁ := .foldl_note (st.stepNotes v.level) w
  have hasked : (env.display e w₁).1 = [] := hcalm.unasking e w₁ (p₁.stays hcalm hw)
  cases hlate : v.isLate (env.clock (env.display e w₁).2).1 with
  | true =>
    have h₁ : stepWalk env (v.walking st, w) = (.ok e, { v.walking st with stepper := st₁ }, w₁) :=
      stepWalk_of_ok env w hstep
    obtain ⟨w₂, h₂, p₂⟩ := clockRunsOut_passage (v := v.walking st₁) env (env.display e w₁).2 htime
    have hlate' : (v.walking st₁).isLate (env.clock (env.display e w₁).2).1 = true := hlate
    rw [hlate'] at h₂
    refine ⟨_, w₂, p₁.trans (.displayed e p₂), ?_⟩
    rw [follow_of_step serve fuel course hfly h₁ hasked, Act.bind_of_ok h₂]
    simp only [hlate]
    rfl
  | false =>
    refine ⟨_, _, p₁.trans (.displayed e (.read (.foldl_note (st₁.acknowledgeNotes v.level) _))), ?_⟩
    simp only [hlate]
    exact follow_round_early serve fuel course w htime hfly hstep hack hasked hlate

/-- In calm surroundings a walk is followed to its end or to the first late reading. -/
theorem follow_followed (hcalm : Calm env keeps within) (serve : Request → Act σ Unit) (v : Visit) (w : σ)
    (st : Stepper) (course : Course) {fuel : Nat} (hw : within w) (hnone : st.shownEvent? = none)
    (hsound : st.Sound v.level) (htime : v.timedOut = false) (hfuel : st.workLeft ≤ fuel)
    (hstate : st.state? = some course.state)
    (hcourse : course.timedOut = false) :
    ∃ course' v' w' es ts, follow env serve fuel course (v.walking st, w) = (.ok course', v', w') ∧
      env.Passage w es [] ts w' ∧ ts.length = es.length ∧ course'.events.toList = course.events.toList ++ es ∧
      Followed v st es ts course'.state course'.timedOut v' := by
  have hrests : ∀ {fuel w st course}, st.inFlight = false → st.state? = some course.state → course.timedOut = false →
      ∃ course' v' w' es ts, follow env serve fuel course (v.walking st, w) = (.ok course', v', w') ∧
        env.Passage w es [] ts w' ∧ ts.length = es.length ∧ course'.events.toList = course.events.toList ++ es ∧
        Followed v st es ts course'.state course'.timedOut v' := by
    intro fuel w st course hidle hstate hcourse
    refine ⟨course, v.walking st, w, [], [], follow_of_idle serve fuel course hidle, .refl w, rfl,
      (List.append_nil _).symm, ?_⟩
    rw [hcourse]
    exact .of_idle hidle hstate
  -- Each round lowers the work that is left, which the fuel bounds; what was seen before only grows.
  induction fuel generalizing w st course with
  | zero => exact hrests (Stepper.idle_of_workLeft hfuel) hstate hcourse
  | succ fuel ih =>
    cases hfly : st.inFlight with
    | false => exact hrests hfly hstate hcourse
    | true =>
      obtain ⟨e, st₁, hstep⟩ := Stepper.exists_step v.level hfly hnone
      obtain ⟨st₂, hack, hround⟩ := Stepper.round_of_step hstep
      obtain ⟨hsound₁, -, s₁, -, hs₁, -⟩ := Stepper.step_kept hsound hstep
      obtain ⟨hsound₂, -, s₂, -, hs₂, -⟩ := Stepper.acknowledge_kept hsound₁ hack
      obtain ⟨t, w₁, hpassage, hfollow⟩ := follow_round hcalm serve fuel course hw htime hfly hstep hack
      simp only [hs₁, hs₂, Option.getD_some] at hfollow
      cases hlate : v.isLate t with
      | true =>
        rw [hlate, if_pos rfl] at hfollow
        have hheld := Stepper.pendingEvents_of_shown (Stepper.shownEvent?_of_step hstep).2
        refine ⟨_, _, w₁, [e], [t], hfollow, hpassage, rfl, Array.toList_push, ?_⟩
        rw [overdue_walking hs₁]
        have hpart : [e] <+: (st.drain v.level).1 := by
          rw [Stepper.drain_of_ok hround]
          exact List.cons_prefix_cons.mpr ⟨rfl, List.nil_prefix⟩
        have hearly : ∀ t ∈ ([] : List (Option Number)), v.isLate t = false := fun _ ht => nomatch ht
        have htold := hsound₁.told s₁ e hs₁ hheld
        exact .cut (List.nil_append [e]).symm hpart htold (List.nil_append [t]).symm hearly hlate
      | false =>
        rw [hlate, if_neg Bool.false_ne_true] at hfollow
        have hless : st₂.workLeft ≤ fuel := Nat.le_of_lt_succ (Nat.lt_of_lt_of_le (Stepper.workLeft_round hround) hfuel)
        obtain ⟨course', v', w', es, ts, hrest, hpassage', hlength, hevents, hfollowed⟩ :=
          ih w₁ st₂ { course with events := course.events.push e, state := s₂ } (hpassage.stays hcalm hw)
            (Stepper.shownEvent?_of_acknowledge hack).2 hsound₂ hless hs₂ hcourse
        refine ⟨course', v', w', e :: es, t :: ts, hfollow.trans hrest, hpassage.trans hpassage',
          congrArg (· + 1) hlength, ?_, hfollowed.cons hlate hround⟩
        rw [hevents, Array.toList_push, List.append_assoc]
        rfl

end GridWalk.Visit
