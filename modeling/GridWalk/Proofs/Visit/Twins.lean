import GridWalk.Proofs.Visit.Passage

/-! The same action among two surroundings. Where both answer alike, a visit cannot tell the one from the other: actions
    have the same results, leave the same visit, and do the same to both. -/

namespace GridWalk

variable {σ τ α β : Type} {env : Surroundings σ} {env' : Surroundings τ} {R : σ → τ → Prop}

/-- In related states both surroundings answer alike, and what is done to both leaves them in related states. -/
structure Surroundings.Twins (env : Surroundings σ) (env' : Surroundings τ) (R : σ → τ → Prop) : Prop where
  display : ∀ e {w w'}, R w w' → (env.display e w).1 = (env'.display e w').1 ∧ R (env.display e w).2 (env'.display e w').2
  clock : ∀ {w w'}, R w w' → (env.clock w).1 = (env'.clock w').1 ∧ R (env.clock w).2 (env'.clock w').2
  keepsRecords : ∀ {w w'}, R w w' → env.keepsRecords w = env'.keepsRecords w'
  record : ∀ r {w w'}, R w w' → (env.record r w).1 = (env'.record r w').1 ∧ R (env.record r w).2 (env'.record r w').2
  note : ∀ n {w w'}, R w w' → R (env.note n w) (env'.note n w')

theorem Surroundings.Twins.noted (henv : env.Twins env' R) (entries : List Journal.Entry) {w : σ} {w' : τ} (h : R w w') :
    R (env.noted entries w) (env'.noted entries w') := by
  induction entries generalizing w w' with
  | nil => exact h
  | cons n entries ih => exact ih (henv.note n h)

/-- On one visit, in related states, both actions have the same result and leave the same visit, in related states. -/
def Act.Twins (R : σ → τ → Prop) (act : Act σ α) (act' : Act τ α) : Prop :=
  ∀ v w w', R w w' → ∃ result v₁ w₁ w₁', act (v, w) = (result, v₁, w₁) ∧ act' (v, w') = (result, v₁, w₁') ∧ R w₁ w₁'

namespace Act.Twins

theorem pure (a : α) : Twins R (Pure.pure a) (Pure.pure a) := fun v w w' h => ⟨.ok a, v, w, w', rfl, rfl, h⟩

theorem fail (e : VisitError) : Twins R (Act.fail e : Act σ α) (Act.fail e) :=
  fun v w w' h => ⟨.error e, v, w, w', rfl, rfl, h⟩

theorem visit : Twins R Act.visit Act.visit := fun v w w' h => ⟨.ok v, v, w, w', rfl, rfl, h⟩

theorem modify (f : Visit → Visit) : Twins R (Act.modify f) (Act.modify f) :=
  fun v w w' h => ⟨.ok (), f v, w, w', rfl, rfl, h⟩

theorem outside {f : σ → α × σ} {f' : τ → α × τ} (h : ∀ {w w'}, R w w' → (f w).1 = (f' w').1 ∧ R (f w).2 (f' w').2) :
    Twins R (Act.outside f) (Act.outside f') := by
  intro v w w' hw
  obtain ⟨hanswer, hleft⟩ := h hw
  exact ⟨.ok (f w).1, v, (f w).2, (f' w').2, rfl, by rw [hanswer]; rfl, hleft⟩

theorem lift {ε : Type} (convert : ε → VisitError) (result : Except ε α) :
    Twins R (Act.lift convert result) (Act.lift convert result) := by
  cases result with
  | ok a => exact pure a
  | error e => exact fail (convert e)

theorem bind {act : Act σ α} {act' : Act τ α} {next : α → Act σ β} {next' : α → Act τ β} (h : Twins R act act')
    (hnext : ∀ a, Twins R (next a) (next' a)) : Twins R (act >>= next) (act' >>= next') := by
  intro v w w' hw
  obtain ⟨result, v₁, w₁, w₁', hact, hact', h₁⟩ := h v w w' hw
  cases result with
  | error e => exact ⟨.error e, v₁, w₁, w₁', bind_of_error hact, bind_of_error hact', h₁⟩
  | ok a =>
    rw [bind_of_ok hact, bind_of_ok hact']
    exact hnext a v₁ w₁ w₁' h₁

theorem ite {act next : Act σ α} {act' next' : Act τ α} (c : Prop) [Decidable c] (h : Twins R act act')
    (hnext : Twins R next next') : Twins R (if c then act else next) (if c then act' else next') := by
  split
  · exact h
  · exact hnext

theorem note (henv : env.Twins env' R) (entries : List Journal.Entry) :
    Twins R (Act.note env entries) (Act.note env' entries) := outside fun h => ⟨rfl, henv.noted entries h⟩

theorem each {act : β → Act σ Unit} {act' : β → Act τ Unit} (h : ∀ b, Twins R (act b) (act' b)) (items : List β) :
    Twins R (Act.each items act) (Act.each items act') := by
  induction items with
  | nil => exact pure ()
  | cons b rest ih => exact bind (h b) fun _ => ih

end Act.Twins

namespace Visit

variable (henv : env.Twins env' R)
include henv

/-! ### Actions without a walk of their own -/

theorem abort_twins : Act.Twins R (abort env) (abort env') :=
  .bind .visit fun _ => .bind (.note henv _) fun _ => .modify _

theorem readElapsed_twins (given : Option Number) : Act.Twins R (readElapsed env given) (readElapsed env' given) := by
  cases given with
  | some now => exact .pure now
  | none => exact .bind (.outside henv.clock) fun _ => .pure _

theorem checkTime_twins (elapsed : Number) : Act.Twins R (checkTime env elapsed) (checkTime env' elapsed) :=
  .bind .visit fun v => .ite (v.timedOut = true) (.pure true) <| .ite (v.isOverdue elapsed = true)
    (.bind (.note henv _) fun _ => .bind (.note henv _) fun _ => .bind (.modify _) fun _ => .pure true) (.pure false)

theorem clockRunsOut_twins : Act.Twins R (clockRunsOut env) (clockRunsOut env') := by
  refine .bind (.outside henv.clock) fun now => ?_
  cases now with
  | none => exact .pure false
  | some now => exact checkTime_twins henv now

theorem keepRecord_twins (success : Bool) (commandsUsed : Nat) (elapsed : Number) (energized : Bool) :
    Act.Twins R (keepRecord env success commandsUsed elapsed energized)
      (keepRecord env' success commandsUsed elapsed energized) := by
  refine .bind (.outside fun h => ⟨henv.keepsRecords h, h⟩) fun keeps => .ite (keeps = true) ?_ (.pure none)
  exact .bind .visit fun _ => .bind (.lift _ _) fun _ => .bind (.outside (henv.record _)) fun _ =>
    .bind (.lift _ _) fun _ => .pure _

theorem leave_twins (given : Option Number) : Act.Twins R (leave env given) (leave env' given) :=
  .bind .visit fun _ => .bind (abort_twins henv) fun _ => .bind (readElapsed_twins henv given) fun _ =>
    .bind .visit fun _ => keepRecord_twins henv _ _ _ _

theorem restart_twins : Act.Twins R (restart env) (restart env') := .bind (abort_twins henv) fun _ => .modify _

/-! ### Walks -/

theorem startWalk_twins (moves : List Move) : Act.Twins R (startWalk env moves) (startWalk env' moves) :=
  .bind .visit fun _ => .bind (.lift _ _) fun _ => .bind (.note henv _) fun _ => .bind (.modify _) fun _ => .pure _

theorem stepWalk_twins : Act.Twins R (stepWalk env) (stepWalk env') :=
  .bind .visit fun _ => .bind (.lift _ _) fun _ => .bind (.note henv _) fun _ => .bind (.modify _) fun _ => .pure _

theorem acknowledge_twins : Act.Twins R (acknowledge env) (acknowledge env') :=
  .bind .visit fun _ => .bind (.lift _ _) fun _ => .bind (.note henv _) fun _ => .modify _

omit henv in
theorem walkState_twins (before : Walk.State) : Act.Twins R (walkState before) (walkState before) :=
  .bind .visit fun _ => .pure _

variable {serve : Request → Act σ Unit} {serve' : Request → Act τ Unit}
  (hserve : ∀ request, Act.Twins R (serve request) (serve' request))
include hserve

theorem follow_twins (fuel : Nat) (course : Course) :
    Act.Twins R (follow env serve fuel course) (follow env' serve' fuel course) := by
  induction fuel generalizing course with
  | zero => exact .pure course
  | succ fuel ih =>
    refine .bind .visit fun v => .ite ((!v.stepper.inFlight) = true) (.pure course) ?_
    refine .bind (stepWalk_twins henv) fun e => .bind (.modify _) fun _ => .bind (walkState_twins _) fun _ => ?_
    refine .bind (.outside (henv.display e)) fun requests => .bind (.each hserve requests) fun _ => ?_
    refine .bind (clockRunsOut_twins henv) fun late => .ite (late = true) (.pure _) ?_
    exact .bind (acknowledge_twins henv) fun _ => .bind (.modify _) fun _ => .bind (walkState_twins _) fun _ => ih _

omit hserve in
theorem breakingOff_twins {act : Act σ α} {act' : Act τ α} (h : Act.Twins R act act') :
    Act.Twins R (breakingOff env act) (breakingOff env' act') := by
  intro v w w' hw
  obtain ⟨result, v₁, w₁, w₁', hact, hact', h₁⟩ := h v w w' hw
  rw [breakingOff, breakingOff, hact, hact']
  dsimp only
  split
  · exact ⟨_, _, _, _, rfl, rfl, henv.noted _ h₁⟩
  · exact ⟨_, _, _, _, rfl, rfl, h₁⟩

omit hserve in
theorem conclude_twins (commandsUsed : Nat) (given : Option Number) (course : Course) :
    Act.Twins R (conclude env commandsUsed given course) (conclude env' commandsUsed given course) := by
  refine .ite (course.state.outcome = .victory) ?_ (.ite (course.state.outcome.isHazard = true) ?_ ?_)
  · exact .bind (.modify _) fun _ => .bind (readElapsed_twins henv given) fun _ =>
      .bind (keepRecord_twins henv _ _ _ _) fun _ => .pure _
  · exact .bind (.modify _) fun _ => .pure _
  · exact .bind (.modify _) fun _ => .pure _

theorem walkProgram_twins (program : Program) (given : Option Number) :
    Act.Twins R (walkProgram env serve program given) (walkProgram env' serve' program given) := by
  refine .bind (.modify _) fun _ => .bind (.note henv _) fun _ => .bind (startWalk_twins henv _) fun _ => ?_
  refine .bind (.modify _) fun _ => .bind .visit fun _ => .bind (breakingOff_twins henv (follow_twins henv hserve _ _)) ?_
  exact fun course => .ite (course.timedOut = true) (.pure _) (conclude_twins henv _ _ _)

theorem submitServing_twins (text : Option String) (given : Option Number) :
    Act.Twins R (submitServing env serve text given) (submitServing env' serve' text given) := by
  refine .bind .visit fun v => .ite (v.completed = true) (.pure _) ?_
  refine .bind (readElapsed_twins henv given) fun now => .bind (checkTime_twins henv now) fun late => ?_
  refine .ite (late = true) (.pure _) (.bind .visit fun v => ?_)
  cases v.rejection? text with
  | some rejection => exact .bind (.note henv _) fun _ => .pure _
  | none => exact walkProgram_twins henv hserve _ given

omit hserve

theorem serve_twins (depth : Nat) (request : Request) :
    Act.Twins R (Visit.serve env depth request) (Visit.serve env' depth request) := by
  induction depth generalizing request with
  | zero =>
    cases request with
    | fail => exact .fail .displayLost
    | submit text given => exact .fail .nestedTooDeep
    | checkTime elapsed => exact .bind (checkTime_twins henv elapsed) fun _ => .pure _
    | leave given => exact .bind (leave_twins henv given) fun _ => .pure _
    | restart => exact restart_twins henv
  | succ depth ih =>
    cases request with
    | fail => exact .fail .displayLost
    | submit text given => exact .bind (submitServing_twins henv ih text given) fun _ => .pure _
    | checkTime elapsed => exact .bind (checkTime_twins henv elapsed) fun _ => .pure _
    | leave given => exact .bind (leave_twins henv given) fun _ => .pure _
    | restart => exact restart_twins henv

/-- A submission comes to the same among both surroundings, whatever their displays ask for meanwhile. -/
theorem submit_twins (depth : Nat) (text : Option String) (given : Option Number) :
    Act.Twins R (submit env depth text given) (submit env' depth text given) :=
  submitServing_twins henv (serve_twins henv depth) text given

end Visit
end GridWalk
