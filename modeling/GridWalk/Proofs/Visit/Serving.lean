import GridWalk.Proofs.Visit.History

/-! What actions on a visit come to in any surroundings, where displays may break down or ask for something, also
    for submissions within submissions. An action leads by a history to what it leaves, also when it fails. Where
    it is asked for during a walk and succeeds, the walk is left as it was or it is over. -/

namespace GridWalk.Visit
open Walk (Stepper Event)

variable {σ α β : Type} {env : Surroundings σ} {s : Visit × σ} {v v' : Visit} {w w' : σ}

/-- A history leads from `s` to what is left, and the result and the visit left are as described. -/
def Ends (env : Surroundings σ) (s : Visit × σ) (out : Except VisitError α × Visit × σ)
    (post : Except VisitError α → Visit → Prop) : Prop :=
  ∃ hs, History env s hs out.2 ∧ post out.1 out.2.1

namespace Ends
variable {out : Except VisitError α × Visit × σ} {post mid : Except VisitError α → Visit → Prop}

theorem done {result : Except VisitError α} (h : post result v) : Ends env (v, w) (result, v, w) post :=
  ⟨[], .refl _, h⟩

theorem passed {es : List Event} {ts : List (Option Number)} (p : env.Passage w es [] ts w')
    (h : Ends env (v, w') out post) : Ends env (v, w) out post := by
  obtain ⟨hs, hhistory, hpost⟩ := h
  exact ⟨hs, .passed p hhistory, hpost⟩

theorem turned {s' : Visit × σ} {a : Happening} (t : Turn env s a s') (h : Ends env s' out post) :
    Ends env s out post := by
  obtain ⟨hs, hhistory, hpost⟩ := h
  exact ⟨a :: hs, .turned t hhistory, hpost⟩

theorem mono {post' : Except VisitError α → Visit → Prop} (h : Ends env s out post)
    (himp : ∀ result v', post result v' → post' result v') : Ends env s out post' := by
  obtain ⟨hs, hhistory, hpost⟩ := h
  exact ⟨hs, hhistory, himp _ _ hpost⟩

/-- Actions in sequence: the second one begins with what a success of the first leaves. -/
theorem bind {act : Act σ α} {next : α → Act σ β} {post : Except VisitError β → Visit → Prop}
    (hsound : s.1.Sound) (h : Ends env s (act s) mid)
    (hok : ∀ a v' w', v'.Sound → mid (.ok a) v' → Ends env (v', w') (next a (v', w')) post)
    (herror : ∀ e v', mid (.error e) v' → post (.error e) v') : Ends env s ((act >>= next) s) post := by
  obtain ⟨hs, hhistory, hmid⟩ := h
  rw [Act.bind_apply]
  rcases hact : act s with ⟨result, v', w'⟩
  rw [hact] at hhistory hmid
  cases result with
  | error e => exact ⟨hs, hhistory, herror e v' hmid⟩
  | ok a =>
    obtain ⟨hs', hhistory', hpost⟩ := hok a v' w' (hhistory.sound hsound) hmid
    exact ⟨hs ++ hs', hhistory.trans hhistory', hpost⟩

end Ends

/-- A walk in progress goes on as it was or is over, unless the action fails, and none is left where there was
    none. -/
structure Settles (v : Visit) (result : Except VisitError α) (v' : Visit) : Prop where
  settled : ∀ a, result = .ok a → v' = v ∨ v'.stepper.inFlight = false
  idle : v.stepper.inFlight = false → v'.stepper.inFlight = false

namespace Settles
variable {result : Except VisitError α} {v₁ : Visit}

theorem same (result : Except VisitError α) : v.Settles result v := ⟨fun _ _ => .inl rfl, id⟩

theorem of_idle (h : v'.stepper.inFlight = false) : v.Settles result v' := ⟨fun _ _ => .inr h, fun _ => h⟩

theorem failed {e : VisitError} (h : v.stepper.inFlight = false → v'.stepper.inFlight = false) :
    v.Settles (.error e : Except VisitError α) v' := ⟨nofun, h⟩

theorem trans {a : α} {result : Except VisitError β} (h : v.Settles (.ok a : Except VisitError α) v₁)
    (h' : v₁.Settles result v') : v.Settles result v' := by
  refine ⟨fun b hb => ?_, fun hidle => h'.idle (h.idle hidle)⟩
  rcases h.settled a rfl with rfl | hidle
  · exact h'.settled b hb
  · exact .inr (h'.idle hidle)

end Settles

/-! ### Actions without a walk of their own -/

theorem inFlight_of_timedOut (h : v.Sound) (htime : v.timedOut = true) : v.stepper.inFlight = false := by
  cases hfly : v.stepper.inFlight with
  | false => rfl
  | true => exact absurd ((h.walking hfly).2.symm.trans htime) Bool.false_ne_true

/-- Either it is early and nothing changes, or no walk goes on. -/
inductive TimeChecked (v : Visit) : Except VisitError Bool → Visit → Prop
  | early : TimeChecked v (.ok false) v
  | late {v' : Visit} (hidle : v'.stepper.inFlight = false) : TimeChecked v (.ok true) v'

theorem checkTime_ends (h : v.Sound) (elapsed : Number) (w : σ) : Ends env (v, w) (checkTime env elapsed (v, w))
    fun result v' => v.TimeChecked result v' ∧ (result = .ok false → v.timedOut = false) := by
  obtain ⟨w', hcheck, p⟩ := checkTime_passage env elapsed v w
  rw [hcheck]
  cases htime : v.timedOut with
  | true => exact .passed p (.done ⟨.late (inFlight_of_timedOut h htime), nofun⟩)
  | false =>
    cases hlate : v.isOverdue elapsed with
    | false => exact .passed p (.done ⟨.early, fun _ => rfl⟩)
    | true =>
      exact .passed p (.turned (.changed (.timeUp elapsed htime hlate) w') (.done ⟨.late v.stepper.inFlight_abort, nofun⟩))

theorem clockRunsOut_ends (h : v.Sound) (w : σ) :
    Ends env (v, w) (clockRunsOut env (v, w)) v.TimeChecked := by
  have hread : ∀ {out : Except VisitError Bool × Visit × σ} {post : Except VisitError Bool → Visit → Prop},
      Ends env (v, (env.clock w).2) out post → Ends env (v, w) out post := .passed (.read (.refl _))
  rw [clockRunsOut_apply]
  cases (env.clock w).1 with
  | none => exact hread (.done .early)
  | some now => exact hread ((checkTime_ends h now _).mono fun _ _ hchecked => hchecked.1)

theorem abort_passage (env : Surroundings σ) (v : Visit) (w : σ) :
    ∃ w', abort env (v, w) = (.ok (), v.aborted, w') ∧ env.Passage w [] [] [] w' := by
  obtain ⟨w', h', p'⟩ := Act.note_passage env (v.stepper.abortNotes v.level) v w
  refine ⟨w', ?_, p'⟩
  rw [abort, Act.visit_bind_apply, Act.bind_of_ok h']
  rfl

/-- Leaving gives up the walk in progress and records that. -/
theorem leave_passage (env : Surroundings σ) (given : Option Number) (v : Visit) (w : σ) :
    ∃ elapsed ts result w₁ w₂, leave env given (v, w) = (result, v.aborted, w₂) ∧ env.Passage w [] [] ts w₁ ∧
      env.Recording (v.departure · ((v.lastWalk.map (·.energized)).getD false)) elapsed w₁ result w₂ := by
  obtain ⟨w₁, h₁, p₁⟩ := abort_passage env v w
  obtain ⟨elapsed, ts, w₂, h₂, p₂, -⟩ := readElapsed_passage env given w₁
  obtain ⟨result, w₃, h₃, hrecording⟩ := keepRecord_recording env false v.aborted.lastCommands elapsed
    ((v.lastWalk.map (·.energized)).getD false) v.aborted w₂
  refine ⟨elapsed, ts, result, w₂, w₃, ?_, p₁.trans p₂, hrecording⟩
  rw [leave, Act.visit_bind_apply, Act.bind_of_ok h₁, Act.bind_of_ok (h₂ v.aborted), Act.visit_bind_apply]
  exact h₃

theorem leave_ends (given : Option Number) (v : Visit) (w : σ) : Ends env (v, w) (leave env given (v, w))
    fun _ v' => v'.stepper.inFlight = false := by
  obtain ⟨elapsed, ts, result, w₁, w₂, hleave, p, hrecording⟩ := leave_passage env given v w
  have hleft : Turn env (v.aborted, w₁) (.left result) (v.aborted, w₂) := .left hrecording
  rw [hleave]
  exact .passed p (.turned (.changed .aborted w₁) (.turned hleft (.done v.stepper.inFlight_abort)))

theorem restart_passage (env : Surroundings σ) (v : Visit) (w : σ) :
    ∃ w', restart env (v, w) = (.ok (), v.renewed, w') ∧ env.Passage w [] [] [] w' := by
  obtain ⟨w', h', p'⟩ := abort_passage env v w
  have hrenewed : v.aborted.renewed = v.renewed := by
    simp only [renewed, aborted, Stepper.abort_of_idle v.stepper.inFlight_abort]
  refine ⟨w', ?_, p'⟩
  rw [restart, Act.bind_of_ok h', ← hrenewed]
  rfl

theorem restart_ends (v : Visit) (w : σ) : Ends env (v, w) (restart env (v, w))
    fun _ v' => v'.stepper.inFlight = false := by
  obtain ⟨w', hrestart, p⟩ := restart_passage env v w
  rw [hrestart]
  exact .passed p (.turned (.changed .renewed w') (.done v.stepper.inFlight_abort))

/-! ### Walks -/

/-- Requests are served as they should be. -/
def Serves (env : Surroundings σ) (serve : Request → Act σ Unit) : Prop :=
  ∀ r v w, v.Sound → Ends env (v, w) (serve r (v, w)) v.Settles

variable {serve : Request → Act σ Unit}

theorem each_ends (hserve : Serves env serve) (requests : List Request) (h : v.Sound) (w : σ) :
    Ends env (v, w) (Act.each requests serve (v, w)) v.Settles := by
  induction requests generalizing v w with
  | nil => exact .done (.same _)
  | cons r rest ih =>
    rw [Act.each]
    refine .bind h (hserve r v w h) ?_ ?_
    · intro _ v₁ w₁ h₁ hfirst
      exact (ih h₁ w₁).mono fun _ _ hrest => hfirst.trans hrest
    · intro e v' hfailed
      exact hfailed

theorem acknowledge_of_error (env : Surroundings σ) (w : σ) {e : Walk.StepperError}
    (h : v.stepper.acknowledge v.level = .error e) : acknowledge env (v, w) = (.error (.stepper e), v, w) := by
  rw [acknowledge, Act.visit_bind_apply, h]
  rfl

/-- A walk that was not broken off has come to its end, and nothing but the walk has come of it so far. -/
def Lands (commandsUsed : Nat) (result : Except VisitError Course) (v : Visit) : Prop :=
  ∀ course, result = .ok course → course.timedOut = false →
    v.stepper.inFlight = false ∧ v.Tracks course.state ∧ v.lastCommands = commandsUsed

theorem Lands.of_timedOut {n : Nat} {course : Course} (h : course.timedOut = true) : Lands n (.ok course) v := by
  rintro _ ⟨⟩ hearly
  exact absurd (hearly.symm.trans h) Bool.false_ne_true

theorem Lands.of_error {n : Nat} {e : VisitError} : Lands n (.error e) v := nofun

/-- A round shows an event and serves what is asked for meanwhile. The walk is followed further only if it is then
    as it was when the event was shown. -/
theorem follow_round_ends (hserve : Serves env serve) (fuel : Nat) (course : Course) {n : Nat} {e : Event}
    {st : Stepper} (h : v.Sound) (hfly : v.stepper.inFlight = true) (hstep : v.stepper.step v.level = .ok (e, st))
    (hnext : ∀ st₂ w, st.acknowledge v.level = .ok st₂ → (v.walking st₂).Sound →
      Ends env (v.walking st₂, w) (follow env serve fuel { course with
        events := course.events.push e, state := st₂.state?.getD (st.state?.getD course.state) } (v.walking st₂, w))
        (Lands n)) :
    Ends env (v, w) (follow env serve (fuel + 1) course (v, w)) (Lands n) := by
  obtain ⟨w₁, h₁, p₁⟩ := stepWalk_passage env w hstep
  have hshown : Turn env (v, w₁) (.shown e) (v.walking st, w₁) := .changed (.shown hstep) w₁
  have hsound : (v.walking st).Sound := hshown.sound h
  rw [follow_of_shown serve fuel course hfly h₁]
  refine .passed p₁ (.turned hshown (.passed (.displayed e (.refl _)) ?_))
  refine .bind hsound (each_ends hserve _ hsound _) ?_ fun _ _ _ => .of_error
  intro _ v₂ w₂ h₂ hserved
  refine .bind h₂ (clockRunsOut_ends h₂ w₂) ?_ fun _ _ _ => .of_error
  intro late v₃ w₃ h₃ hchecked
  cases hchecked with
  | late hidle => exact .done (.of_timedOut rfl)
  | early =>
    rw [if_neg Bool.false_ne_true]
    cases hack : v₂.stepper.acknowledge v₂.level with
    | error e =>
      rw [Act.bind_of_error (acknowledge_of_error env w₃ hack)]
      exact .done .of_error
    | ok st₂ =>
      -- A walk that is over shows no event that could be acknowledged.
      have hsame : v₂ = v.walking st := by
        refine (hserved.settled () rfl).resolve_right fun hidle => ?_
        obtain ⟨⟨e', hheld⟩, -⟩ := Stepper.shownEvent?_of_acknowledge hack
        exact absurd (hidle.symm.trans (Stepper.inFlight_of_shown hheld)) Bool.false_ne_true
      subst hsame
      obtain ⟨w₄, h₄, p₄⟩ := acknowledge_passage env w₃ hack
      have htold : Turn env (v.walking st, w₄) .acknowledged (v.walking st₂, w₄) := .changed (.acknowledged hack) w₄
      rw [Act.bind_of_ok h₄, trackWalk_bind_apply, walkState_bind_apply]
      exact .passed p₄ (.turned htold (hnext st₂ w₄ hack (htold.sound hsound)))

/-- Whatever is asked for meanwhile, a walk is followed to its end, broken off or given up. -/
theorem follow_ends (hserve : Serves env serve) (fuel : Nat) (course : Course) (v : Visit) (w : σ) (h : v.Sound)
    (htracks : v.Tracks course.state) (hnone : v.stepper.shownEvent? = none) (hfuel : v.stepper.workLeft ≤ fuel) :
    Ends env (v, w) (follow env serve fuel course (v, w)) (Lands v.lastCommands) := by
  have hrests : ∀ {fuel : Nat} {course : Course} {v : Visit} {w : σ}, v.stepper.inFlight = false →
      v.Tracks course.state → Ends env (v, w) (follow env serve fuel course (v, w)) (Lands v.lastCommands) := by
    intro fuel course v w hidle htracks
    rw [follow_of_idle serve fuel course hidle]
    refine .done ?_
    rintro _ ⟨⟩ -
    exact ⟨hidle, htracks, rfl⟩
  -- Each round lowers the work that is left, which the fuel bounds.
  induction fuel generalizing course v w with
  | zero => exact hrests (Stepper.idle_of_workLeft hfuel) htracks
  | succ fuel ih =>
    cases hfly : v.stepper.inFlight with
    | false => exact hrests hfly htracks
    | true =>
      obtain ⟨e, st, hstep⟩ := Stepper.exists_step v.level hfly hnone
      refine follow_round_ends hserve fuel course h hfly hstep fun st₂ w₂ hack hsound => ?_
      obtain ⟨st', hack', hround⟩ := Stepper.round_of_step hstep
      obtain rfl : st₂ = st' := Except.ok.inj (hack.symm.trans hack')
      obtain ⟨-, -, s, -, hs, -⟩ := Stepper.acknowledge_kept (Stepper.step_kept h.stepper hstep).1 hack
      have htracks' : (v.walking st₂).Tracks s := ⟨hs, hs, htracks.new, htracks.early⟩
      have hless : st₂.workLeft ≤ fuel := Nat.le_of_lt_succ (Nat.lt_of_lt_of_le (Stepper.workLeft_round hround) hfuel)
      rw [hs, Option.getD_some]
      exact ih _ (v.walking st₂) w₂ hsound htracks' (Stepper.shownEvent?_of_acknowledge hack).2 hless

/-- What a broken-off walk does not tell of holds of the visit without it. -/
theorem breakingOff_ends {act : Act σ α} {post : Except VisitError α → Visit → Prop} (h : Ends env s (act s) post)
    (hcut : ∀ result v, post result v → v.stepper.inFlight = true →
      post result { v.aborted with position := v.level.start }) :
    Ends env s (breakingOff env act s) fun result v => v.stepper.inFlight = false ∧ post result v := by
  obtain ⟨hs, hhistory, hpost⟩ := h
  rcases hact : act s with ⟨result, v, w⟩
  rw [hact] at hhistory hpost
  rw [breakingOff, hact]
  dsimp only
  cases hfly : v.stepper.inFlight with
  | false => exact ⟨hs, hhistory, hfly, hpost⟩
  | true =>
    have hnotes : env.Passage w [] [] [] _ := .foldl_note (v.interruptedNotes ++ v.stepper.abortNotes v.level) w
    have hcutOff : History env (v, w) [.interrupted] ({ v.aborted with position := v.level.start }, _) :=
      .passed hnotes (.turned (.changed (.interrupted hfly) _) (.refl _))
    exact ⟨hs ++ [.interrupted], hhistory.trans hcutOff, v.stepper.inFlight_abort, hcut result v hpost hfly⟩

/-- A victory is recorded, and it completes the level whatever comes of that. -/
theorem conclude_of_elapsed (env : Surroundings σ) (commandsUsed : Nat) {given : Option Number} {course : Course}
    (v : Visit) {elapsed : Number} {w₁ : σ} (hvictory : course.state.outcome = .victory)
    (hread : ∀ u, readElapsed env given (u, w) = (.ok elapsed, u, w₁)) :
    ∃ recording result w₂, env.Recording (v.completion commandsUsed · course.state) elapsed w₁ recording w₂ ∧
      conclude env commandsUsed given course (v, w) =
        (result, { v with completed := true, position := course.state.position }, w₂) := by
  let u : Visit := { v with completed := true, position := course.state.position }
  obtain ⟨recording, w₂, hrecord, hrecording⟩ :=
    keepRecord_recording env true commandsUsed elapsed course.state.energized u w₁
  rw [conclude, if_pos hvictory, Act.modify_bind_apply, Act.bind_of_ok (hread u)]
  cases recording with
  | error e => exact ⟨_, _, w₂, hrecording, Act.bind_of_error hrecord⟩
  | ok record => exact ⟨_, _, w₂, hrecording, Act.bind_of_ok hrecord⟩

theorem conclude_recording (env : Surroundings σ) (commandsUsed : Nat) (given : Option Number) {course : Course}
    (v : Visit) (w : σ) (hvictory : course.state.outcome = .victory) :
    ∃ elapsed ts recording result w₁ w₂, env.Passage w [] [] ts w₁ ∧
      env.Recording (v.completion commandsUsed · course.state) elapsed w₁ recording w₂ ∧
      conclude env commandsUsed given course (v, w) =
        (result, { v with completed := true, position := course.state.position }, w₂) := by
  obtain ⟨elapsed, ts, w₁, hread, p, -⟩ := readElapsed_passage env given w
  obtain ⟨recording, result, w₂, hrecording, hconclude⟩ := conclude_of_elapsed env commandsUsed v hvictory hread
  exact ⟨elapsed, ts, recording, result, w₁, w₂, p, hrecording, hconclude⟩

theorem conclude_passage (env : Surroundings σ) (commandsUsed : Nat) (given : Option Number) (course : Course)
    (v : Visit) (w : σ) : ∃ rs ts, env.Passage w [] rs ts (conclude env commandsUsed given course (v, w)).2.2 := by
  by_cases hvictory : course.state.outcome = .victory
  · obtain ⟨elapsed, ts, recording, result, w₁, w₂, p₁, hrecording, hconclude⟩ :=
      conclude_recording env commandsUsed given v w hvictory
    obtain ⟨rs, p₂, -⟩ := hrecording.passage
    rw [hconclude]
    exact ⟨_, _, p₁.trans p₂⟩
  · rw [conclude_of_ne_victory env false commandsUsed given 0 w hvictory]
    exact ⟨[], [], .refl w⟩

theorem conclude_ends (given : Option Number) {course : Course} (w : σ) (hidle : v.stepper.inFlight = false)
    (htracks : v.Tracks course.state) : Ends env (v, w) (conclude env v.lastCommands given course (v, w))
      fun _ v' => v'.stepper.inFlight = false := by
  by_cases hvictory : course.state.outcome = .victory
  · obtain ⟨elapsed, ts, recording, result, w₁, w₂, p₁, hrecording, hconclude⟩ :=
      conclude_recording env v.lastCommands given v w hvictory
    rw [hconclude]
    exact .passed p₁ (.turned (.won hidle htracks hvictory hrecording) (.done hidle))
  · rw [conclude_of_ne_victory env false v.lastCommands given 0 w hvictory]
    exact .turned (.changed (.landed hidle htracks hvictory) w) (.done hidle)

/-! ### Submissions -/

theorem startWalk_of_inFlight (env : Surroundings σ) (moves : List Move) (w : σ) (hfly : v.stepper.inFlight = true) :
    startWalk env moves (v, w) = (.error (.stepper .busy), v, w) := by
  rw [startWalk, Act.visit_bind_apply, Stepper.start, hfly]
  rfl

/-- A program is refused where a walk is in progress. -/
theorem walkProgram_of_inFlight (env : Surroundings σ) (serve : Request → Act σ Unit) (program : Program)
    (given : Option Number) (w : σ) (hfly : v.stepper.inFlight = true) :
    ∃ w', env.Passage w [] [] [] w' ∧ walkProgram env serve program given (v, w) =
      (.error (.stepper .busy), { v with lastCommands := program.length }, w') := by
  let v₁ : Visit := { v with lastCommands := program.length }
  obtain ⟨w₁, h₁, p₁⟩ := Act.note_passage env
    [entry .debug s!"Running {program.length} commands, {program.unitSteps} unit steps"] v₁ w
  refine ⟨w₁, p₁, ?_⟩
  rw [walkProgram, Act.modify_bind_apply, Act.bind_of_ok h₁]
  exact Act.bind_of_error (startWalk_of_inFlight (v := v₁) env program.unroll w₁ hfly)

/-- A program is walked to an end where no walk is in progress, and refused elsewhere. -/
theorem walkProgram_ends (hserve : Serves env serve) (program : Program) (given : Option Number) (w : σ)
    (h : v.Sound) (hnew : v.completed = false) (htime : v.timedOut = false) :
    Ends env (v, w) (walkProgram env serve program given (v, w)) v.Settles := by
  let v₁ : Visit := { v with lastCommands := program.length }
  have haccepted : Turn env (v, w) (.accepted program.length) (v₁, w) := .changed (.accepted _) w
  refine .turned haccepted ?_
  cases hfly : v.stepper.inFlight with
  | true =>
    obtain ⟨w₁, p₁, hprogram⟩ := walkProgram_of_inFlight env serve program given w hfly
    rw [hprogram]
    exact .passed p₁ (.done (.failed id))
  | false =>
    obtain ⟨w₁, p₁, hprogram⟩ := walkProgram_passage env serve program given w hfly
    let v₂ : Visit := v₁.walking (.ready { position := v.level.start } program.unroll)
    have hbegun : Turn env (v₁, w₁) (.begun program.unroll) (v₂, w₁) :=
      .changed (Change.begun (v := v₁) program.unroll hfly hnew htime) w₁
    have hsound : v₂.Sound := hbegun.sound (haccepted.sound h)
    rw [hprogram]
    refine .passed p₁ (.turned hbegun ?_)
    have hfollow := follow_ends hserve v₂.stepper.workLeft { state := { position := v.level.start } } v₂ w₁ hsound
      ⟨rfl, rfl, hnew, htime⟩ rfl (Nat.le_refl _)
    have hbroken := breakingOff_ends hfollow fun result v hlands hfly course hcourse hearly =>
      absurd ((hlands course hcourse hearly).1.symm.trans hfly) Bool.false_ne_true
    refine .bind hsound hbroken ?_ fun e v' hleft => .of_idle hleft.1
    intro course v₃ w₃ h₃ hleft
    cases hout : course.timedOut with
    | true => exact .done (.of_idle hleft.1)
    | false =>
      obtain ⟨hidle, htracks, hcount⟩ := hleft.2 course rfl hout
      rw [if_neg Bool.false_ne_true, ← show v₃.lastCommands = program.length from hcount]
      exact (conclude_ends given w₃ hidle htracks).mono fun _ _ => .of_idle

/-- What is submitted is turned away for a reason, or found to be late, or it is an accepted text that is walked. -/
theorem submitServing_judged (env : Surroundings σ) (serve : Request → Act σ Unit) (text : Option String)
    (given : Option Number) (v : Visit) (w : σ) :
    ∃ ts w', env.Passage w [] [] ts w' ∧
      ((∃ report, report.valid = false ∧ (v.completed = true ∨ v.timedOut = true ∨ v.rejection? text ≠ none) ∧
          submitServing env serve text given (v, w) = (.ok report, v, w')) ∨
        (∃ now report, report.valid = false ∧ v.timedOut = false ∧ v.isOverdue now = true ∧
          submitServing env serve text given (v, w) = (.ok report, v.overdue, w')) ∨
        ∃ t, text = some t ∧ v.options.accepts t = true ∧ v.completed = false ∧ v.timedOut = false ∧
          submitServing env serve text given (v, w) =
            walkProgram env serve (Command.read t).terms given (v, w')) := by
  rw [submitServing, Act.visit_bind_apply]
  cases hnew : v.completed with
  | true => exact ⟨[], w, .refl w, .inl ⟨_, rfl, .inl rfl, rfl⟩⟩
  | false =>
    obtain ⟨now, ts, w₁, h₁, p₁, -⟩ := readElapsed_passage env given w
    obtain ⟨w₂, h₂, p₂⟩ := checkTime_passage env now v w₁
    have p := List.append_nil ts ▸ p₁.trans p₂
    rw [if_neg Bool.false_ne_true, Act.bind_of_ok (h₁ v), Act.bind_of_ok h₂]
    cases htime : v.timedOut with
    | true => exact ⟨ts, w₂, p, .inl ⟨_, rfl, .inr (.inl rfl), rfl⟩⟩
    | false =>
      cases hlate : v.isOverdue now with
      | true => exact ⟨ts, w₂, p, .inr (.inl ⟨now, _, rfl, rfl, hlate, rfl⟩)⟩
      | false =>
        rw [Bool.or_false, if_neg Bool.false_ne_true, Act.visit_bind_apply, Bool.and_false, if_neg Bool.false_ne_true]
        cases hreason : v.rejection? text with
        | some rejection =>
          let shown := Text.quoted (text.getD "")
          obtain ⟨w₃, h₃, p₃⟩ := Act.note_passage env
            [entry .info s!"Rejected commands {shown}: {rejection.message}"] v w₂
          have hrejected := Option.some_ne_none rejection
          exact ⟨ts, w₃, List.append_nil ts ▸ p.trans p₃, .inl ⟨_, rfl, .inr (.inr hrejected), Act.bind_of_ok h₃⟩⟩
        | none =>
          cases text with
          | none => cases hreason
          | some text =>
            have haccepts : v.options.accepts text = true := Option.isNone_iff_eq_none.mpr hreason
            exact ⟨ts, w₂, p, .inr (.inr ⟨text, rfl, haccepts, rfl, rfl, rfl⟩)⟩

/-- What is submitted is turned away, or found to be late, or it is an accepted text that is walked. -/
theorem submitServing_cases (env : Surroundings σ) (serve : Request → Act σ Unit) (text : Option String)
    (given : Option Number) (v : Visit) (w : σ) :
    ∃ ts w', env.Passage w [] [] ts w' ∧
      ((∃ report, submitServing env serve text given (v, w) = (.ok report, v, w')) ∨
        (∃ now report, v.timedOut = false ∧ v.isOverdue now = true ∧
          submitServing env serve text given (v, w) = (.ok report, v.overdue, w')) ∨
        ∃ t, text = some t ∧ v.options.accepts t = true ∧ v.completed = false ∧ v.timedOut = false ∧
          submitServing env serve text given (v, w) =
            walkProgram env serve (Command.read t).terms given (v, w')) := by
  obtain ⟨ts, w', p, ⟨report, -, -, hsubmit⟩ | ⟨now, report, -, hearly, hlate, hsubmit⟩ | hwalked⟩ :=
    submitServing_judged env serve text given v w
  · exact ⟨ts, w', p, .inl ⟨report, hsubmit⟩⟩
  · exact ⟨ts, w', p, .inr (.inl ⟨now, report, hearly, hlate, hsubmit⟩)⟩
  · exact ⟨ts, w', p, .inr (.inr hwalked)⟩

theorem submitServing_ends (hserve : Serves env serve) (text : Option String) (given : Option Number) (w : σ)
    (h : v.Sound) : Ends env (v, w) (submitServing env serve text given (v, w)) v.Settles := by
  obtain ⟨ts, w', p, ⟨report, hsubmit⟩ | ⟨now, report, hearly, hlate, hsubmit⟩ | ⟨t, -, -, hnew, htime, hsubmit⟩⟩ :=
    submitServing_cases env serve text given v w
  · rw [hsubmit]
    exact .passed p (.done (.same _))
  · rw [hsubmit]
    exact .passed p (.turned (.changed (.timeUp now hearly hlate) w') (.done (.of_idle v.stepper.inFlight_abort)))
  · rw [hsubmit]
    exact .passed p (walkProgram_ends hserve _ given w' h hnew htime)

theorem discard_apply (act : Act σ α) (s : Visit × σ) :
    (discard act : Act σ Unit) s = (act >>= fun _ => pure ()) s := rfl

theorem discard_snd (act : Act σ α) (s : Visit × σ) : ((discard act : Act σ Unit) s).2 = (act s).2 := by
  rw [discard_apply, Act.bind_apply]
  rcases act s with ⟨_ | _, s'⟩
  · rfl
  · rfl

theorem discard_ends {act : Act σ α} (h : v.Sound) (hact : Ends env (v, w) (act (v, w)) v.Settles) :
    Ends env (v, w) ((discard act : Act σ Unit) (v, w)) v.Settles := by
  rw [discard_apply]
  refine .bind h hact ?_ fun _ _ hsettles => .failed hsettles.idle
  intro a v' w' h' hsettles
  exact .done (hsettles.trans (.same (.ok ())))

/-- However deep submissions are nested, requests are served as they should be. -/
theorem serve_serves (env : Surroundings σ) (depth : Nat) : Serves env (Visit.serve env depth) := by
  have htime : ∀ {v : Visit} {w : σ}, v.Sound → ∀ elapsed,
      Ends env (v, w) (checkTime env elapsed (v, w)) v.Settles := by
    intro v w h elapsed
    refine (checkTime_ends h elapsed w).mono ?_
    rintro _ _ ⟨⟨⟩ | hidle, -⟩
    · exact .same _
    · exact .of_idle hidle
  induction depth with
  | zero =>
    intro r v w h
    cases r with
    | fail | submit => exact .done (.same _)
    | checkTime elapsed => exact discard_ends h (htime h elapsed)
    | leave given => exact discard_ends h ((leave_ends given v w).mono fun _ _ => .of_idle)
    | restart => exact (restart_ends v w).mono fun _ _ => .of_idle
  | succ depth ih =>
    intro r v w h
    cases r with
    | fail => exact .done (.same _)
    | submit text given => exact discard_ends h (submitServing_ends ih text given w h)
    | checkTime elapsed => exact discard_ends h (htime h elapsed)
    | leave given => exact discard_ends h ((leave_ends given v w).mono fun _ _ => .of_idle)
    | restart => exact (restart_ends v w).mono fun _ _ => .of_idle

end GridWalk.Visit
