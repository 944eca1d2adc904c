import GridWalk.Proofs.Visit.Calling
import GridWalk.Desk

/-! What is told of a visit when it is left: whether the character was charged on the last walk, and how many commands
    were counted last. The walk is the last one that a submission began, whatever else is done with the stepper. The
    commands are those of the text of that walk, unless a text was refused since because of a walk in progress. -/

namespace GridWalk.Visit

open Walk (Stepper)

variable {σ α : Type} {direct : Prop} {env : Surroundings σ} {o : Opening σ} {ds : List Deed} {s : Visit × σ}
  {v : Visit} {w : σ}

/-! ### Calls of the stepper -/

/-- A call of the stepper behind a visit. -/
def callStepper (env : Surroundings σ) : Walk.Call → Act σ Unit
  | .start moves => do discard (startWalk env moves)
  | .step => do discard (stepWalk env)
  | .acknowledge => acknowledge env
  | .abort => abort env

theorem discard_of_ok {act : Act σ α} {s s' : Visit × σ} {a : α} (h : act s = (.ok a, s')) :
    (discard act : Act σ Unit) s = (.ok (), s') := by
  rw [discard_apply, Act.bind_of_ok h]
  rfl

theorem discard_of_error {act : Act σ α} {s s' : Visit × σ} {e : VisitError} (h : act s = (.error e, s')) :
    (discard act : Act σ Unit) s = (.error e, s') := by
  rw [discard_apply, Act.bind_of_error h]

theorem stepWalk_of_error (env : Surroundings σ) (w : σ) {e : Walk.StepperError}
    (h : v.stepper.step v.level = .error e) : stepWalk env (v, w) = (.error (.stepper e), v, w) := by
  rw [stepWalk, Act.visit_bind_apply, h]
  rfl

/-- A call of the stepper does what it does to the stepper, or it is refused and changes nothing. -/
theorem callStepper_passage (env : Surroundings σ) (call : Walk.Call) (v : Visit) (w : σ) :
    (∃ answer st w', v.stepper.call v.level call = .ok (answer, st) ∧
      callStepper env call (v, w) = (.ok (), { v with stepper := st }, w') ∧ env.Passage w [] [] [] w') ∨
    ∃ e, callStepper env call (v, w) = (.error e, v, w) := by
  cases call with
  | start moves =>
    cases hfly : v.stepper.inFlight with
    | true => exact .inr ⟨_, discard_of_error (startWalk_of_inFlight env moves w hfly)⟩
    | false =>
      obtain ⟨w', hstart, p⟩ := startWalk_passage env moves w hfly
      exact .inl ⟨none, _, w', Stepper.call_start_of_idle v.level moves hfly, discard_of_ok hstart, p⟩
  | step =>
    cases hstep : v.stepper.step v.level with
    | error e => exact .inr ⟨_, discard_of_error (stepWalk_of_error env w hstep)⟩
    | ok shown =>
      obtain ⟨w', hstepped, p⟩ := stepWalk_passage env w hstep
      refine .inl ⟨some shown.1, shown.2, w', ?_, discard_of_ok hstepped, p⟩
      rw [Stepper.call, hstep]
      rfl
  | acknowledge =>
    cases hack : v.stepper.acknowledge v.level with
    | error e => exact .inr ⟨_, acknowledge_of_error env w hack⟩
    | ok st =>
      obtain ⟨w', hacknowledged, p⟩ := acknowledge_passage env w hack
      refine .inl ⟨none, st, w', ?_, hacknowledged, p⟩
      rw [Stepper.call, hack]
      rfl
  | abort =>
    obtain ⟨w', haborted, p⟩ := abort_passage env v w
    exact .inl ⟨none, v.stepper.abort, w', rfl, haborted, p⟩

/-! ### Dealings with a visit -/

/-- What dealings from outside leave, whether they fail or not: those of callers and calls of the stepper. -/
def afterDealings (env : Surroundings σ) (hear : Deed → σ → σ) (dealings : List (Caller σ direct ⊕ Walk.Call))
    (s : Visit × σ) : Visit × σ :=
  dealings.foldl (fun s dealing => (dealing.elim (fun c => c.act env hear) (callStepper env) s).2) s

/-- A dealing from outside goes on with an account and leaves no text underway. -/
theorem dealing_extends (hdirect : o.direct) (dealing : Caller σ o.direct ⊕ Walk.Call) (h : Account o ds (v, w))
    (hnone : textUnderway ds = none) :
    ∃ later, Account o (ds ++ later) (dealing.elim (fun c => c.act o.env o.hear) (callStepper o.env) (v, w)).2 ∧
      textUnderway (ds ++ later) = none := by
  cases dealing with
  | inl c =>
    obtain ⟨later, hacc, hleaves⟩ := c.act_extends h (inStep_of_none hnone)
    exact ⟨later, hacc, hleaves.underway_of_none hnone⟩
  | inr call =>
    rcases callStepper_passage o.env call v w with ⟨answer, st, w', hcall, hanswer, p⟩ | ⟨e, hrefused⟩
    · refine ⟨[.called call], ?_, (textUnderway_concat ds _).trans hnone⟩
      rw [Sum.elim_inr, hanswer]
      exact (h.passed p).did (.called w' hdirect hnone hcall)
    · refine ⟨[], ?_, ?_⟩
      · rw [List.append_nil, Sum.elim_inr, hrefused]
        exact h
      · rwa [List.append_nil]

theorem afterDealings_extends (hdirect : o.direct) (dealings : List (Caller σ o.direct ⊕ Walk.Call))
    (h : Account o ds s) (hnone : textUnderway ds = none) :
    ∃ later v w, afterDealings o.env o.hear dealings s = (v, w) ∧ Account o (ds ++ later) (v, w) ∧
      textUnderway (ds ++ later) = none := by
  induction dealings generalizing ds s with
  | nil =>
    refine ⟨[], s.1, s.2, rfl, ?_, ?_⟩
    · rwa [List.append_nil]
    · rwa [List.append_nil]
  | cons dealing dealings ih =>
    obtain ⟨first, hacc, hover⟩ := dealing_extends hdirect dealing h hnone
    obtain ⟨later, v, w, hrest, hacc', hover'⟩ := ih hacc hover
    rw [List.append_assoc] at hacc' hover'
    exact ⟨first ++ later, v, w, hrest, hacc', hover'⟩

/-! ### What is told -/

/-- The record of a departure tells of the last walk and of the commands counted last. -/
theorem Account.of_left {past later : List Deed} {r : Record} (h : Account o ds s)
    (heq : ds = past ++ .left (.ok (some r)) :: later) : r.commandsUsed = (lastCounted past : Int) ∧
      ∃ walk, Remembers o.level (lastWalked past) walk ∧ r.energized = (walk.map (·.energized)).getD false := by
  obtain ⟨t, t', ht, hdoes⟩ := h.exists_does heq
  cases hdoes with
  | @left v w w' elapsed _ hrecording =>
    cases hrecording with
    | taken =>
      refine ⟨congrArg Int.ofNat ht.lastCommands_eq, v.lastWalk, ht.remembers, rfl⟩

/-- Whatever is done with a visit and the stepper behind it: the last walk is that of the text whose walk was begun
    last since the visit was begun anew, if any, and the commands counted last are those of this text unless another
    was refused since. This is what a departure records. -/
theorem last_walk_and_commands (env : Surroundings σ) (hear : Deed → σ → σ) (level : Level) (requireComma : Bool)
    (dealings : List (Caller σ True ⊕ Walk.Call)) (w : σ) :
    ∃ ds v w', afterDealings env hear dealings ({ level, requireComma }, w) = (v, w') ∧
      Account ⟨env, hear, True, level, requireComma, w⟩ ds (v, w') ∧
      Remembers level (lastWalked ds) v.lastWalk ∧ v.lastCommands = lastCounted ds ∧
      ∀ past r later, ds = past ++ .left (.ok (some r)) :: later → r.commandsUsed = (lastCounted past : Int) ∧
        ∃ walk, Remembers level (lastWalked past) walk ∧ r.energized = (walk.map (·.energized)).getD false := by
  let o : Opening σ := ⟨env, hear, True, level, requireComma, w⟩
  obtain ⟨ds, v, w', hleft, hacc, -⟩ := afterDealings_extends (o := o) trivial dealings .opened rfl
  exact ⟨ds, v, w', hleft, hacc, hacc.remembers, hacc.lastCommands_eq, fun past r later => hacc.of_left⟩

/-- In the lane a text of two commands is refused because of a walk that was begun behind the visit. The commands
    counted last are then its two, while the last walk is that of the one command before, and a departure records
    both. -/
theorem lane_refusal_counts_commands :
    let walked := (submit Desk.surroundings 0 (some "D1") (some (.whole 0))
      ({ level := Walk.lane }, { recorder := some {} })).2
    let begun := (callStepper Desk.surroundings (.start (Command.movesOf "D1")) walked).2
    let refused := submit Desk.surroundings 0 (some "D1,D1") (some (.whole 1)) begun
    let left := leave Desk.surroundings (some (.whole 2)) refused.2
    (Command.termCount "D1" = 1 ∧ walked.1.lastCommands = 1 ∧ walked.1.lastWalk ≠ none) ∧
      (refused.1 = .error (.stepper .busy) ∧ refused.2.1.lastWalk = walked.1.lastWalk ∧ refused.2.1.lastCommands = 2) ∧
      left.1 = .ok (some { level := 1, commandsUsed := 2, timeTaken := 2, energized := true, success := false }) := by
  decide +kernel

end GridWalk.Visit
