import GridWalk.Proofs.Visit.Alike
import GridWalk.Proofs.Visit.Completion
import GridWalk.Proofs.Visit.Departure
import GridWalk.Proofs.Visit.Readings

/-! Time limits. A submission goes as without a limit while the clock shows less, and the first later reading breaks its
    walk off at the event just shown. A visit whose time is up stays as it is until it is begun anew: whatever is
    submitted is turned away, nothing is shown and no success is recorded. -/

namespace GridWalk

open Walk (Stepper Event)

/-! ### Levels without a limit -/

/-- The level without a time limit. -/
def Level.untimed (level : Level) : Level := { level with timeLimit := none }

namespace Walk.Stepper
variable (level : Level) (st : Stepper)

@[simp] theorem step_untimed : st.step level.untimed = st.step level := by cases st <;> rfl

@[simp] theorem acknowledge_untimed : st.acknowledge level.untimed = st.acknowledge level := by cases st <;> rfl

@[simp] theorem stepNotes_untimed : st.stepNotes level.untimed = st.stepNotes level := by cases st <;> rfl

@[simp] theorem acknowledgeNotes_untimed : st.acknowledgeNotes level.untimed = st.acknowledgeNotes level := by
  cases st <;> rfl

end Walk.Stepper

namespace Visit
open Surroundings

variable {σ α : Type} {env : Surroundings σ} {keeps : Bool} {within : σ → Prop} {readings : σ → Stream' Number}
  {v u : Visit} {w : σ}

/-- The visit without a time limit. -/
def untimed (v : Visit) : Visit := { v with level := v.level.untimed }

@[simp] theorem level_untimed (v : Visit) : v.untimed.level = v.level.untimed := rfl

/-- The second visit is the first one without a time limit. -/
def Unlimited (v u : Visit) : Prop := u = v.untimed

theorem isLate_untimed (v : Visit) (t : Option Number) : v.untimed.isLate t = false := by
  cases t <;> rfl

theorem breakingOff_untimed {act act' : Act σ α} {s s' : Visit × σ} (h : Alike Unlimited (act s) (act' s')) :
    Alike Unlimited (breakingOff env act s) (breakingOff env act' s') := by
  rw [breakingOff, breakingOff]
  rcases hact : act s with ⟨result, v, w⟩
  rcases hact' : act' s' with ⟨result', u, w'⟩
  rw [hact, hact'] at h
  obtain ⟨rfl, rfl, rfl⟩ := h
  rcases Bool.eq_false_or_eq_true v.stepper.inFlight with hfly | hidle
  · have hfly' : v.untimed.stepper.inFlight = true := hfly
    simp only [hfly, hfly']
    exact .done _ _ rfl
  · have hidle' : v.untimed.stepper.inFlight = false := hidle
    simp only [hidle, hidle']
    exact .done _ _ rfl

theorem conclude_untimed (env : Surroundings σ) (commandsUsed : Nat) (given : Option Number) (course : Course)
    (v : Visit) (w : σ) : Alike Unlimited (conclude env commandsUsed given course (v, w))
      (conclude env commandsUsed given course (v.untimed, w)) := by
  rw [conclude]
  by_cases hvictory : course.state.outcome = .victory
  · rw [if_pos hvictory, Act.modify_bind_apply, Act.modify_bind_apply]
    refine (Alike.readElapsed (R := Unlimited) env given w rfl).bind ?_ fun _ _ => id
    intro elapsed v' u w' h
    have hnumber : v'.level.number = u.level.number := congrArg (·.level.number) (Eq.symm h)
    exact (Alike.keepRecord env true commandsUsed elapsed _ w' h hnumber).bind (fun _ _ _ w => .done _ w) fun _ _ => id
  · rw [if_neg hvictory]
    split
    · exact .done _ w rfl
    · exact .done _ w rfl

/-! ### Looks at the clock -/

section Limit
variable {limit now : Number} (hlimit : v.level.timeLimit = some limit)
include hlimit

theorem isOverdue_eq_false_iff : v.isOverdue now = false ↔ now.less limit = true := by
  simp [isOverdue, hlimit]

theorem isOverdue_eq_true_iff : v.isOverdue now = true ↔ now.less limit = false := by
  simp [isOverdue, hlimit]

end Limit

/-- The elapsed seconds when something is submitted: those given, else the first reading. -/
def elapsedAt (given : Option Number) (coming : Stream' Number) : Number := given.getD coming.head

/-- The readings that are left for the walk. -/
def looks : (given : Option Number) → (coming : Stream' Number) → Stream' Number
  | some _, coming => coming
  | none, coming => coming.tail

/-- A text is submitted in time: no walk is in progress, the level is neither completed nor timed out, the text is
    accepted and the elapsed seconds are below the limit. -/
structure InTime (v : Visit) (limit : Number) (text : String) (given : Option Number) (coming : Stream' Number) :
    Prop where
  limited : v.level.timeLimit = some limit
  idle : v.stepper.inFlight = false
  new : v.completed = false
  early : v.timedOut = false
  accepts : v.options.accepts text = true
  elapsed : (elapsedAt given coming).less limit = true

/-- A text that is accepted in time is walked. -/
theorem submitServing_of_accepted (serve : Request → Act σ Unit) {text : String} {given : Option Number} {now : Number}
    {w₁ : σ} (hread : readElapsed env given (v, w) = (.ok now, v, w₁)) (hnew : v.completed = false)
    (htime : v.timedOut = false) (hearly : v.isOverdue now = false) (haccepts : v.options.accepts text = true) :
    submitServing env serve (some text) given (v, w) =
      walkProgram env serve (Command.read text).terms given (v, w₁) := by
  have hreason : v.rejection? (some text) = none := Option.isNone_iff_eq_none.mp haccepts
  rw [submitServing, Act.visit_bind_apply, hnew, if_neg Bool.false_ne_true, Act.bind_of_ok hread,
    Act.bind_of_ok (checkTime_of_early env w₁ htime hearly), if_neg Bool.false_ne_true, Act.visit_bind_apply, hreason]
  rfl

theorem InTime.submitServing_eq {limit : Number} {text : String} {given : Option Number} {coming : Stream' Number}
    (h : v.InTime limit text given coming) {w₁ : σ} (serve : Request → Act σ Unit)
    (hread : ∀ v, readElapsed env given (v, w) = (.ok (elapsedAt given coming), v, w₁)) :
    submitServing env serve (some text) given (v, w) =
      walkProgram env serve (Command.read text).terms given (v, w₁) := by
  have hearly := (isOverdue_eq_false_iff h.limited).mpr h.elapsed
  exact submitServing_of_accepted serve (hread v) h.new h.early hearly h.accepts

/-- How a walk was followed while the readings came from a stream: to its end, where none of them was late, or to the
    first late one. -/
theorem Followed.cases_coming {st : Stepper} {es : List Event} {ts : List (Option Number)} {s : Walk.State} {out : Bool}
    (h : Followed v st es ts s out u) (coming : Stream' Number) (hts : ts = (coming.take es.length).map some) :
    (out = false ∧ u = v.walking (.resting s) ∧ st.drain v.level = (es, .resting s) ∧
      ∀ k < es.length, v.isOverdue (coming.get k) = false) ∨
    (out = true ∧ u = (v.walking (.resting s)).overdue ∧ ∃ k e, es = (st.drain v.level).1.take (k + 1) ∧ k < es.length ∧
      es.getLast? = some e ∧ s.ToldBy e ∧ v.isOverdue (coming.get k) = true ∧
      ∀ j < k, v.isOverdue (coming.get j) = false) := by
  cases h with
  | whole hdrain hearly =>
    subst hts
    exact .inl ⟨rfl, rfl, hdrain, forall_taken.mp hearly⟩
  | @cut es' e ts' t hes hpart htold hts' hearly hlate =>
    have hlength : es.length = es'.length + 1 := by rw [hes, List.length_append, List.length_singleton]
    have hlast : es.getLast? = some e := by rw [hes, List.getLast?_concat]
    rw [hlength, Stream'.take_succ', List.map_append, hts'] at hts
    obtain ⟨rfl, ht⟩ := List.append_inj' hts rfl
    obtain rfl := List.singleton_inj.mp ht
    refine .inr ⟨rfl, rfl, es'.length, e, ?_, ?_, hlast, htold, hlate, forall_taken.mp hearly⟩
    · rw [← hlength]
      exact List.prefix_iff_eq_take.mp hpart
    · rw [hlength]
      exact Nat.lt_succ_self _

section Coming
variable (hcalm : Calm env keeps within) (hticks : env.Ticks within readings)
include hcalm hticks

theorem readElapsed_ticks (given : Option Number) (hw : within w) :
    ∃ ts w₁, (∀ v, readElapsed env given (v, w) = (.ok (elapsedAt given (readings w)), v, w₁)) ∧
      env.Passage w [] [] ts w₁ ∧ within w₁ ∧ readings w₁ = looks given (readings w) := by
  cases given with
  | some now => exact ⟨[], w, fun _ => rfl, .refl w, hw, rfl⟩
  | none =>
    refine ⟨_, _, fun v => ?_, .read (.refl _), hcalm.clock w hw, hticks.clock w hw⟩
    have hread : readElapsed env none (v, w) = (.ok ((env.clock w).1.getD (.whole 0)), v, (env.clock w).2) := rfl
    rw [hread, hticks.shows w hw]
    rfl

/-- While the readings are early, a walk is followed as without a limit. -/
theorem follow_untimed (serve : Request → Act σ Unit) (fuel : Nat) (course : Course) (v : Visit) (w : σ) (st : Stepper)
    (hw : within w) (hnone : st.shownEvent? = none) (htime : v.timedOut = false)
    (hearly : ∀ k < (st.drain v.level).1.length, v.isOverdue ((readings w).get k) = false) :
    Alike Unlimited (follow env serve fuel course (v.walking st, w))
      (follow env serve fuel course (v.untimed.walking st, w)) := by
  induction fuel generalizing w st course with
  | zero => exact .done _ w rfl
  | succ fuel ih =>
    cases hfly : st.inFlight with
    | false =>
      rw [follow_of_idle (v := v.walking st) serve _ course hfly,
        follow_of_idle (v := v.untimed.walking st) serve _ course hfly]
      exact .done _ w rfl
    | true =>
      obtain ⟨e, st₁, hstep⟩ := Stepper.exists_step v.level hfly hnone
      obtain ⟨st₂, hack, hround⟩ := Stepper.round_of_step hstep
      let w₁ := env.noted (st.stepNotes v.level) w
      have p₁ : env.Passage w [] [] [] w₁ := .foldl_note (st.stepNotes v.level) w
      have hasked : (env.display e w₁).1 = [] := hcalm.unasking e w₁ (p₁.stays hcalm hw)
      have p₂ : env.Passage w [e] [] [(env.clock (env.display e w₁).2).1] (env.noted (st₁.acknowledgeNotes v.level)
          (env.clock (env.display e w₁).2).2) :=
        p₁.trans (.displayed e (.read (.foldl_note (st₁.acknowledgeNotes v.level) _)))
      obtain ⟨hnow, hrest⟩ := hticks.passage hcalm p₂ hw
      rw [Stepper.drain_of_ok hround] at hearly
      have hlate : v.isLate (env.clock (env.display e w₁).2).1 = false := by
        rw [(List.cons_eq_cons.mp hnow).1]
        exact hearly 0 (Nat.zero_lt_succ _)
      -- Without the limit the same event is shown, and the same entries are made.
      have hstep' : st.step v.untimed.level = .ok (e, st₁) := (st.step_untimed v.level).trans hstep
      have hack' : st₁.acknowledge v.untimed.level = .ok st₂ := (st₁.acknowledge_untimed v.level).trans hack
      have hnotes : st.stepNotes v.untimed.level = st.stepNotes v.level := st.stepNotes_untimed v.level
      have hasked' : (env.display e (env.noted (st.stepNotes v.untimed.level) w)).1 = [] := by
        rw [hnotes]
        exact hasked
      rw [follow_round_early serve fuel course w htime hfly hstep hack hasked hlate,
        follow_round_early (v := v.untimed) serve fuel course w htime hfly hstep' hack' hasked' (isLate_untimed v _),
        hnotes, level_untimed, Stepper.acknowledgeNotes_untimed]
      refine ih _ _ st₂ (p₂.stays hcalm hw) (Stepper.shownEvent?_of_acknowledge hack).2 fun k hk => ?_
      rw [hrest]
      exact hearly (k + 1) (Nat.succ_lt_succ hk)

theorem walkProgram_untimed (serve : Request → Act σ Unit) (program : Program) (given : Option Number) (v : Visit)
    (w : σ) (hw : within w) (hidle : v.stepper.inFlight = false) (htime : v.timedOut = false)
    (hearly : ∀ k < (Walk.events v.level program.unroll).length, v.isOverdue ((readings w).get k) = false) :
    Alike Unlimited (walkProgram env serve program given (v, w))
      (walkProgram env serve program given (v.untimed, w)) := by
  let v₁ : Visit := { v with lastCommands := program.length }
  let st : Stepper := .ready { position := v.level.start } program.unroll
  let w₁ := env.noted (Stepper.startNotes v.level)
    (env.noted [entry .debug s!"Running {program.length} commands, {program.unitSteps} unit steps"] w)
  have p₁ : env.Passage w [] [] [] w₁ := .trans (.foldl_note _ w) (.foldl_note _ _)
  have hfollow := follow_untimed hcalm hticks serve st.workLeft { state := { position := v.level.start } } v₁ w₁ st
    (p₁.stays hcalm hw) rfl htime fun k hk => by
      rw [(hticks.passage hcalm p₁ hw).2]
      exact hearly k hk
  rw [walkProgram_of_idle (v := v) env serve program given w hidle,
    walkProgram_of_idle (v := v.untimed) env serve program given w hidle]
  refine (breakingOff_untimed hfollow).bind ?_ fun _ _ => id
  intro course v' u w' h
  cases course.timedOut with
  | true => exact .done _ w' h
  | false =>
    obtain rfl : u = v'.untimed := h
    exact conclude_untimed env program.length given course v' w'

theorem InTime.submit_untimed {limit : Number} {text : String} {given : Option Number}
    (h : v.InTime limit text given (readings w)) (hw : within w) (depth : Nat)
    (hearly : ∀ k < (Walk.events v.level (Command.movesOf text)).length,
      ((looks given (readings w)).get k).less limit = true) :
    Alike Unlimited (submit env depth (some text) given (v, w))
      (submit env depth (some text) given (v.untimed, w)) := by
  obtain ⟨ts, w₁, hread, -, hw₁, hcoming⟩ := readElapsed_ticks hcalm hticks given hw
  have haccepts : v.untimed.options.accepts text = true := h.accepts
  rw [submit, h.submitServing_eq (serve env depth) hread,
    submitServing_of_accepted (serve env depth) (hread v.untimed) h.new h.early rfl haccepts]
  refine walkProgram_untimed hcalm hticks _ _ given v w₁ hw₁ h.idle h.early fun k hk => ?_
  rw [hcoming]
  exact (isOverdue_eq_false_iff h.limited).mpr (hearly k hk)

/-- How a program is walked while the readings come from a stream: all of its events are shown, where none of the
    readings after them is late, or those up to the first late one. -/
theorem walkProgram_coming (serve : Request → Act σ Unit) (program : Program) (given : Option Number) (hw : within w)
    (hidle : v.stepper.inFlight = false) (htime : v.timedOut = false) :
    let es := Walk.events v.level program.unroll
    ((∀ k < es.length, v.isOverdue ((readings w).get k) = false) ∧
      ∃ rs ts, env.Passage w es rs ts (walkProgram env serve program given (v, w)).2.2) ∨
    ∃ k < es.length, v.isOverdue ((readings w).get k) = true ∧ (∀ j < k, v.isOverdue ((readings w).get j) = false) ∧
      ∃ s e ts w', (es.take (k + 1)).getLast? = some e ∧ s.ToldBy e ∧ env.Passage w (es.take (k + 1)) [] ts w' ∧
        walkProgram env serve program given (v, w) =
          (.ok (cutReport (es.take (k + 1)) program.length s), v.brokenOff program.length s, w') := by
  intro es
  obtain ⟨course, v', w', ts, p, hlength, hfollowed, hprogram⟩ :=
    walkProgram_followed hcalm serve program given hw hidle htime
  have hts := (hticks.passage hcalm p hw).1
  rw [hlength] at hts
  rcases hfollowed.cases_coming (readings w) hts with
    ⟨hout, -, hdrain, hearly⟩ | ⟨hout, rfl, k, e, hshown, hk, hlast, htold, hlate, hfirst⟩
  · have hes : es = course.events.toList := (whole_of_drain hdrain).1
    obtain ⟨rs, ts', p'⟩ := conclude_passage env program.length given course v' w'
    rw [hes, hprogram, hout]
    exact .inl ⟨hearly, rs, ts ++ ts', List.append_nil course.events.toList ▸ p.trans p'⟩
  · have hes : course.events.toList = es.take (k + 1) := hshown
    rw [hes] at hk hlast p hprogram
    rw [hout] at hprogram
    have hbound := hk.trans_le (List.length_take_le' _ _)
    exact .inr ⟨k, hbound, hlate, hfirst, course.state, e, ts, w', hlast, htold, p, hprogram⟩

end Coming

/-! ### Time that is up -/

/-- Time that is up has sent the character back to the start, and no walk moves it from there. -/
theorem Account.position_of_timedOut {o : Opening σ} {ds : List Deed} {s : Visit × σ} (h : Account o ds s)
    (htime : s.1.timedOut = true) : s.1.position = o.level.start := by
  induction h with
  | opened => cases htime
  | passed _ _ ih | proceeded _ _ _ ih => exact ih htime
  | did h hd ih =>
    cases hd with
    | submits | refused | begun | answered | timeChecked | left | called => exact ih htime
    | outOfTime | brokenOff => exact congrArg (·.start) h.level_eq.1
    | renewed => cases htime
    | landed w hnow => exact absurd ((h.walks _ hnow).early.symm.trans htime) Bool.false_ne_true
    | won hnow => exact absurd ((h.walks _ hnow).early.symm.trans htime) Bool.false_ne_true

/-- Time stays up from one state of a visit and its surroundings to another: the character stays where it is, nothing is
    shown and no success is recorded. -/
structure StaysOver (env : Surroundings σ) (s s' : Visit × σ) : Prop where
  timedOut : s'.1.timedOut = true
  position : s'.1.position = s.1.position
  passage : ∃ rs ts, env.Passage s.2 [] rs ts s'.2 ∧ ∀ r ∈ rs, r.success = false

namespace StaysOver
variable {s s' s'' : Visit × σ}

theorem trans (h : StaysOver env s s') (h' : StaysOver env s' s'') : StaysOver env s s'' := by
  obtain ⟨rs, ts, p, hrs⟩ := h.passage
  obtain ⟨rs', ts', p', hrs'⟩ := h'.passage
  exact ⟨h'.timedOut, h'.position.trans h.position, rs ++ rs', ts ++ ts', p.trans p',
    List.forall_mem_append.mpr ⟨hrs, hrs'⟩⟩

theorem of_unrecorded {w' : σ} {ts : List (Option Number)} (h : v.timedOut = true) (p : env.Passage w [] [] ts w') :
    StaysOver env (v, w) (v, w') := ⟨h, rfl, [], ts, p, nofun⟩

end StaysOver

/-- Whatever is submitted when time is up is turned away. -/
theorem submitServing_of_timedOut (env : Surroundings σ) (serve : Request → Act σ Unit) (text : Option String)
    (given : Option Number) (w : σ) (h : v.timedOut = true) :
    ∃ message ts w', submitServing env serve text given (v, w) = (.ok (.rejected message), v, w') ∧
      env.Passage w [] [] ts w' := by
  rw [submitServing, Act.visit_bind_apply]
  cases v.completed with
  | true => exact ⟨completedMessage, [], w, rfl, .refl w⟩
  | false =>
    obtain ⟨now, ts, w₁, hread, p, -⟩ := readElapsed_passage env given w
    refine ⟨timeoutMessage, ts, w₁, ?_, p⟩
    rw [if_neg Bool.false_ne_true, Act.bind_of_ok (hread v), Act.bind_of_ok (checkTime_of_timedOut env now w₁ h)]
    rfl

/-- Every call but to begin anew leaves time up. -/
theorem serve_staysOver (env : Surroundings σ) (depth : Nat) {call : Request} (hcall : call ≠ .restart) (w : σ)
    (h : v.timedOut = true) : StaysOver env (v, w) (serve env (depth + 1) call (v, w)).2 := by
  cases call with
  | fail => exact .of_unrecorded h (.refl w)
  | submit text given =>
    obtain ⟨message, ts, w', hsubmit, p⟩ := submitServing_of_timedOut env (serve env depth) text given w h
    rw [serve, discard_snd, hsubmit]
    exact .of_unrecorded h p
  | checkTime elapsed =>
    rw [serve, discard_snd, checkTime_of_timedOut env elapsed w h]
    exact .of_unrecorded h (.refl w)
  | leave given =>
    obtain ⟨elapsed, ts, result, w₁, w₂, hleave, p, hrecording⟩ := leave_passage env given v w
    obtain ⟨rs, p', hrs⟩ := hrecording.passage
    rw [serve, discard_snd, hleave]
    refine ⟨h, rfl, _, _, p.trans p', fun r hr => ?_⟩
    obtain ⟨time, -, rfl⟩ := hrs r hr
    rfl
  | restart => exact absurd rfl hcall

theorem afterCalls_staysOver (env : Surroundings σ) (depth : Nat) (calls : List Request)
    (hcalls : ∀ call ∈ calls, call ≠ .restart) (w : σ) (h : v.timedOut = true) :
    StaysOver env (v, w) (afterCalls env depth calls (v, w)) := by
  induction calls generalizing v w with
  | nil => exact .of_unrecorded h (.refl w)
  | cons call calls ih =>
    obtain ⟨hcall, hcalls⟩ := List.forall_mem_cons.mp hcalls
    have hfirst := serve_staysOver env depth hcall w h
    exact hfirst.trans (ih hcalls _ hfirst.timedOut)

/-! ### Time limits -/

/-- A time limit is kept: up to it, at the first late reading, and once time is up. -/
structure KeepsLimit (env : Surroundings σ) (within : σ → Prop) (readings : σ → Stream' Number) : Prop where
  /-- A text that is submitted in time is walked as without a limit if the readings after its events are early. -/
  inTime : ∀ {v : Visit} {w : σ} {limit : Number} {text : String} {given : Option Number}, within w →
    v.InTime limit text given (readings w) →
    (∀ k < (Walk.events v.level (Command.movesOf text)).length, ((looks given (readings w)).get k).less limit = true) →
    ∀ depth, Alike Unlimited (submit env depth (some text) given (v, w))
        (submit env depth (some text) given (v.untimed, w)) ∧
      ∃ rs ts, env.Passage w (Walk.events v.level (Command.movesOf text)) rs ts
        (submit env depth (some text) given (v, w)).2.2
  /-- The first reading that is late breaks its walk off at the event just shown, with nothing recorded. -/
  late : ∀ {v : Visit} {w : σ} {limit : Number} {text : String} {given : Option Number}, within w →
    v.InTime limit text given (readings w) → ∀ {k : Nat}, k < (Walk.events v.level (Command.movesOf text)).length →
    ((looks given (readings w)).get k).less limit = false →
    (∀ j < k, ((looks given (readings w)).get j).less limit = true) →
    ∀ depth, ∃ s e ts w', ((Walk.events v.level (Command.movesOf text)).take (k + 1)).getLast? = some e ∧ s.ToldBy e ∧
      submit env depth (some text) given (v, w) =
        (.ok (cutReport ((Walk.events v.level (Command.movesOf text)).take (k + 1)) (Command.termCount text) s),
          v.brokenOff (Command.termCount text) s, w') ∧
      env.Passage w ((Walk.events v.level (Command.movesOf text)).take (k + 1)) [] ts w'
  /-- Whatever was done with a visit and its stepper, once time is up the character is at the start and stays there, and
      whatever is submitted is turned away, until the visit is begun anew. -/
  timeUp : ∀ (hear : Deed → σ → σ) (level : Level) (requireComma : Bool)
    (dealings : List (Caller σ True ⊕ Walk.Call)) (w : σ) {v : Visit} {w' : σ},
    afterDealings env hear dealings ({ level, requireComma }, w) = (v, w') → v.timedOut = true →
    v.position = level.start ∧ ∀ (depth : Nat) (calls : List Request), (∀ call ∈ calls, call ≠ .restart) →
      StaysOver env (v, w') (afterCalls env depth calls (v, w')) ∧
      ∀ text given, ∃ message ts w'',
        submit env depth text given (afterCalls env depth calls (v, w')) =
          (.ok (.rejected message), (afterCalls env depth calls (v, w')).1, w'') ∧
        env.Passage (afterCalls env depth calls (v, w')).2 [] [] ts w''

/-- In calm surroundings with a clock time limits are kept, whatever the clock shows. -/
theorem time_limits_kept (env : Surroundings σ) (keeps : Bool) (within : σ → Prop) (readings : σ → Stream' Number)
    (hcalm : env.Calm keeps within) (hticks : env.Ticks within readings) : KeepsLimit env within readings where
  inTime {v w limit text given} hw h hearly depth := by
    refine ⟨h.submit_untimed hcalm hticks hw depth hearly, ?_⟩
    obtain ⟨ts, w₁, hread, p, hw₁, hcoming⟩ := readElapsed_ticks hcalm hticks given hw
    rw [submit, h.submitServing_eq (serve env depth) hread]
    rcases walkProgram_coming hcalm hticks (serve env depth) (Command.read text).terms given hw₁ h.idle h.early with
      ⟨-, rs, ts', p'⟩ | ⟨k, hk, hlate, -⟩
    · exact ⟨rs, ts ++ ts', p.trans p'⟩
    · rw [hcoming, isOverdue_eq_true_iff h.limited, hearly k hk] at hlate
      cases hlate
  late {v w limit text given} hw h k hk hlate hfirst depth := by
    obtain ⟨ts, w₁, hread, p, hw₁, hcoming⟩ := readElapsed_ticks hcalm hticks given hw
    simp only [← hcoming, ← isOverdue_eq_true_iff h.limited, ← isOverdue_eq_false_iff h.limited] at hlate hfirst
    rcases walkProgram_coming hcalm hticks (serve env depth) (Command.read text).terms given hw₁ h.idle h.early with
      ⟨hearly, -⟩ | ⟨n, hn, hlate', hfirst', s, e, ts', w', hlast, htold, p', hprogram⟩
    · exact absurd ((hearly k hk).symm.trans hlate) Bool.false_ne_true
    · -- There is only one first late reading.
      obtain rfl : n = k := by
        rcases Nat.lt_trichotomy n k with hlt | heq | hlt
        · exact absurd ((hfirst n hlt).symm.trans hlate') Bool.false_ne_true
        · exact heq
        · exact absurd ((hfirst' k hlt).symm.trans hlate) Bool.false_ne_true
      exact ⟨s, e, ts ++ ts', w', hlast, htold, (h.submitServing_eq (serve env depth) hread).trans hprogram, p.trans p'⟩
  timeUp hear level requireComma dealings w v w' hdealt htime := by
    obtain ⟨ds, u, u', hleft, hacc, -⟩ := afterDealings_extends (o := ⟨env, hear, True, level, requireComma, w⟩) trivial
      dealings .opened rfl
    obtain ⟨rfl, rfl⟩ := Prod.mk.inj (hleft.symm.trans hdealt)
    refine ⟨hacc.position_of_timedOut htime, fun depth calls hcalls => ?_⟩
    have hover := afterCalls_staysOver env depth calls hcalls u' htime
    exact ⟨hover, fun text given => submitServing_of_timedOut env _ text given _ hover.timedOut⟩

theorem lateVisit_timed : lateVisit.2.Timed :=
  ⟨⟨fun _ hplan => (nomatch hplan), {}, rfl, rfl⟩, .whole 0, _, rfl⟩

/-- In the corridor the clock shows the limit once the fourth and last event is shown. -/
theorem corridor_time_limit_kept :
    Rehearsal.surroundings.Calm true Rehearsal.Timed ∧ Rehearsal.surroundings.Ticks Rehearsal.Timed Rehearsal.toCome ∧
      lateVisit.2.Timed ∧ lateVisit.1.InTime (.whole 10) "(d1)x2" none lateVisit.2.toCome ∧
      3 < (Walk.events lateVisit.1.level (Command.movesOf "(d1)x2")).length ∧
      ((looks none lateVisit.2.toCome).get 3).less (.whole 10) = false ∧
      (∀ j < 3, ((looks none lateVisit.2.toCome).get j).less (.whole 10) = true) ∧
      ∃ s e ts w', ((Walk.events lateVisit.1.level (Command.movesOf "(d1)x2")).take 4).getLast? = some e ∧ s.ToldBy e ∧
        submit Rehearsal.surroundings 0 (some "(d1)x2") none lateVisit =
          (.ok (cutReport ((Walk.events lateVisit.1.level (Command.movesOf "(d1)x2")).take 4)
            (Command.termCount "(d1)x2") s), lateVisit.1.brokenOff (Command.termCount "(d1)x2") s, w') ∧
        Rehearsal.surroundings.Passage lateVisit.2
          ((Walk.events lateVisit.1.level (Command.movesOf "(d1)x2")).take 4) [] ts w' :=
  have hkept := time_limits_kept Rehearsal.surroundings true Rehearsal.Timed Rehearsal.toCome Rehearsal.calm_timed
    Rehearsal.ticks
  have hintime : lateVisit.1.InTime (.whole 10) "(d1)x2" none lateVisit.2.toCome :=
    ⟨rfl, rfl, rfl, rfl, by decide +kernel, by decide +kernel⟩
  have hlength : 3 < (Walk.events lateVisit.1.level (Command.movesOf "(d1)x2")).length := by decide +kernel
  have hlate : ((looks none lateVisit.2.toCome).get 3).less (.whole 10) = false := by decide +kernel
  have hfirst : ∀ j < 3, ((looks none lateVisit.2.toCome).get j).less (.whole 10) = true := by decide +kernel
  ⟨Rehearsal.calm_timed, Rehearsal.ticks, lateVisit_timed, hintime, hlength, hlate, hfirst,
    hkept.late lateVisit_timed hintime hlength hlate hfirst 0⟩

/-- Time is then up, also for what is submitted with earlier times. -/
example :
    let left := afterCalls Rehearsal.surroundings 0
      [.submit (some "(d1)x2") none, .checkTime (.whole 0), .submit (some "(d1)x2") (some (.whole 0))] lateVisit
    left.1.timedOut = true ∧ left.1.position = ⟨0, 0⟩ ∧ left.2.desk.recorder.map (·.ledger) = some [] := by
  decide +kernel

end Visit
end GridWalk
