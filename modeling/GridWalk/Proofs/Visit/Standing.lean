import GridWalk.Proofs.Visit.Calling
import GridWalk.Proofs.Walk.Refinement
import GridWalk.Visit.Rehearsal

/-! Where the character stands, whatever callers do. Unless the stepper is called behind the visit, no walk is in
    progress between their calls, and the character stands at the start or where a walk last ended unhurt. Where a
    submission fails it is sent back to the start, but not by a caller that leaves meanwhile. -/

namespace GridWalk

open Walk

variable {σ : Type} {direct : Prop}

namespace Deed

/-- Whether a walk ended unhurt. -/
def arrives : Deed → Bool
  | ended _ s _ => !s.outcome.isHazard
  | _ => false

variable {level : Level} {now : Option String} {p : Position} {ds : List Deed} {d : Deed}

/-- A walk that is stopped, other than by leaving it, leaves the character at the start if it does not end unhurt. -/
theorem place_of_stopped (h : now ≠ none ∨ p = level.start) (hstays : ∀ recording, d ≠ left recording)
    (hhurt : d.arrives = false) : underway now d ≠ none ∨ place level p d = level.start := by
  cases d with
  | begun text => exact .inl (Option.some_ne_none text)
  | submits | refused | answered | timeChecked | called => exact h
  | outOfTime | brokenOff | renewed => exact .inr rfl
  | ended text s recording => exact .inr (if_pos (by simpa [arrives] using hhurt))
  | left recording => exact absurd rfl (hstays recording)

theorem foldl_place_of_stopped (h : now ≠ none ∨ p = level.start) (hstays : ∀ recording, left recording ∉ ds)
    (hhurt : ∀ d ∈ ds, d.arrives = false) :
    ds.foldl underway now ≠ none ∨ ds.foldl (place level) p = level.start := by
  induction ds generalizing now p with
  | nil => exact h
  | cons d ds ih =>
    refine ih (place_of_stopped h ?_ (hhurt d List.mem_cons_self)) ?_ ?_
    · rintro recording rfl
      exact hstays recording List.mem_cons_self
    · exact fun recording hleft => hstays recording (List.mem_cons_of_mem d hleft)
    · exact fun d' hd' => hhurt d' (List.mem_cons_of_mem d hd')

end Deed

namespace Visit
variable {o : Opening σ} {ds : List Deed} {s : Visit × σ} {v : Visit} {w : σ}

/-! ### Where walks end -/

theorem lastEvent_of_simulate {level : Level} {moves : List Move} {t : Walk.State} (h : simulate level moves = some t) :
    ∃ e, (Walk.events level moves).getLast? = some e ∧ e.kind = Plain.finalKind t.outcome := by
  rw [Walk.simulate_eq] at h
  obtain rfl := Option.some.inj h
  refine ⟨Plain.finalEvent level (Move.strides moves), ?_, rfl⟩
  rw [Walk.events_eq]
  exact Plain.getLast?_events

/-- The last walk that ended unhurt did so at the position; it ran out of moves or was won, as its last event tells. -/
def ArrivedLast (o : Opening σ) (ds : List Deed) (p : Position) : Prop :=
  ∃ past text t recording later e, ds = past ++ .ended text t recording :: later ∧ (∀ d ∈ later, d.arrives = false) ∧
    o.visit.WalksTo text t ∧ t.position = p ∧ (Walk.events o.level (Command.movesOf text)).getLast? = some e ∧
    (e.kind = .exhausted ∨ e.kind = .victory)

theorem ArrivedLast.concat {p : Position} {d : Deed} (h : ArrivedLast o ds p) (hd : d.arrives = false) :
    ArrivedLast o (ds ++ [d]) p := by
  obtain ⟨past, text, t, recording, later, e, rfl, hlater, hwalk⟩ := h
  refine ⟨past, text, t, recording, later ++ [d], e, ?_, ?_, hwalk⟩
  · rw [List.append_assoc, List.cons_append]
  · intro d' hd'
    rcases List.mem_append.mp hd' with hd' | hd'
    · exact hlater d' hd'
    · exact List.mem_singleton.mp hd' ▸ hd

/-- A walk that ends unhurt is the last one to do so. -/
theorem Account.arrived {text : String} {t : Walk.State} {recording : Except VisitError (Option Record)}
    (h : Account o (ds ++ [.ended text t recording]) s) (hunhurt : t.outcome.isHazard = false) :
    ArrivedLast o (ds ++ [.ended text t recording]) t.position := by
  have hwalk := h.walksTo List.mem_concat_self
  obtain ⟨e, he, hkind⟩ := lastEvent_of_simulate hwalk.simulate
  refine ⟨ds, text, t, recording, [], e, rfl, List.forall_mem_nil _, hwalk, rfl, he, ?_⟩
  cases hout : t.outcome with
  | running => exact .inl (hkind.trans (congrArg Plain.finalKind hout))
  | victory => exact .inr (hkind.trans (congrArg Plain.finalKind hout))
  | outOfBounds | fellVoid | bittenSnake | needsEnergy =>
    rw [hout] at hunhurt
    cases hunhurt

/-- The character stands at the start or where a walk last ended unhurt. -/
theorem Account.position_arrived (h : Account o ds s) :
    s.1.position = o.level.start ∨ ArrivedLast o ds s.1.position := by
  induction h with
  | opened => exact .inl rfl
  | passed _ _ ih => exact ih
  | proceeded _ _ _ ih => exact ih
  | @did ds s s' d h hd ih =>
    have hkeeps : ∀ {v : Visit}, v.position = s.1.position → d.arrives = false →
        v.position = o.level.start ∨ ArrivedLast o (ds ++ [d]) v.position := by
      intro v hv hhurt
      rw [hv]
      exact ih.imp_right (·.concat hhurt)
    have hstart : s.1.level.start = o.level.start := by rw [h.level_eq.1]
    have hdid := h.did hd
    cases hd with
    | submits | refused | begun | answered | timeChecked | left | called => exact hkeeps rfl rfl
    | outOfTime | brokenOff | renewed => exact .inl hstart
    | @landed v w text t hnow hidle ht hlost =>
      cases hhazard : t.outcome.isHazard with
      | true => exact .inl hstart
      | false => exact .inr (hdid.arrived hhazard)
    | @won v w w' text t elapsed recording hnow hidle ht hvictory hrecording =>
      exact .inr (hdid.arrived (congrArg Outcome.isHazard hvictory))

theorem Account.contains_position (h : Account o ds s) : o.level.contains s.1.position = true := by
  rcases h.position_arrived with hstart | ⟨past, text, t, recording, later, e, -, -, hwalk, hplace, -⟩
  · rw [hstart]
    exact o.level.start_mem
  · rw [← hplace]
    exact hwalk.sound.onGrid

/-- Whatever callers do that do not get at the stepper, after each of their calls no walk is in progress and no event
    is left, and the character stands at the start or where the last walk that ended unhurt did so. -/
theorem idle_where_last_arrived (env : Surroundings σ) (hear : Deed → σ → σ) (level : Level) (requireComma : Bool)
    (c : Caller σ False) (w : σ) :
    ∃ result ds v w', c.act env hear ({ level, requireComma }, w) = (result, v, w') ∧
      Account ⟨env, hear, False, level, requireComma, w⟩ ds (v, w') ∧
      v.stepper.inFlight = false ∧ v.stepper.pendingEvents = [] ∧ level.contains v.position = true ∧
      (v.position = level.start ∨ ArrivedLast ⟨env, hear, False, level, requireComma, w⟩ ds v.position) := by
  let o : Opening σ := ⟨env, hear, False, level, requireComma, w⟩
  obtain ⟨result, ds, v, w', hact, hacc, hnone⟩ := c.extends_of_none (o := o) .opened rfl
  have hidle := hacc.idle_of_none not_false hnone
  exact ⟨result, ds, v, w', hact, hacc, hidle, Stepper.pendingEvents_of_idle hidle, hacc.contains_position,
    hacc.position_arrived⟩

/-! ### Submissions that fail -/

/-- What fails where no walk is in progress has begun one, and it is over. -/
theorem Judged.of_error {text : Option String} {e : VisitError} {later : List Deed} {v' : Visit}
    (h : Judged ds v text (.error e) later v') (hidle : v.stepper.inFlight = false) :
    ∃ t rest, text = some t ∧ later = .begun t :: rest ∧ v'.stepper.inFlight = false ∧
      rest.foldl Deed.underway (some t) = none := by
  cases h with
  | refused ht hfly => exact absurd (hidle.symm.trans hfly) Bool.false_ne_true
  | @walked t _ rest _ ht _ hidle' hnow =>
    rw [textUnderway, List.foldl_append] at hnow
    exact ⟨t, rest, ht, rfl, hidle', hnow⟩

theorem Judged.place_of_error {text : Option String} {e : VisitError} {later : List Deed} {v' : Visit} (level : Level)
    (p : Position) (h : Judged ds v text (.error e) later v') (hidle : v.stepper.inFlight = false)
    (hstays : ∀ recording, .left recording ∉ later) (hhurt : ∀ d ∈ later, d.arrives = false) :
    later.foldl (Deed.place level) p = level.start := by
  obtain ⟨t, rest, -, rfl, -, hnow⟩ := h.of_error hidle
  have hbegun : some t ≠ none ∨ p = level.start := .inl (Option.some_ne_none t)
  exact (Deed.foldl_place_of_stopped hbegun hstays hhurt).resolve_left fun hsome => hsome hnow

/-- Whatever is asked for meanwhile: a submission that fails where no walk is in progress had begun one and leaves
    none, and the character is where the deeds done meanwhile put it. That is the start, but for callers that leave
    and for walks that ended unhurt. -/
theorem failure_returns_to_start_unless_left (env : Surroundings σ) (hear : Deed → σ → σ) (level : Level)
    (requireComma : Bool) (c : Caller σ direct) (w : σ)
    (hidle : (c.act env hear ({ level, requireComma }, w)).2.1.stepper.inFlight = false) (text : Option String)
    (given : Option Number) (serve : Request → Caller σ direct) :
    ∃ v w' result v' w'' ds later, (c.act env hear ({ level, requireComma }, w)).2 = (v, w') ∧
      submission env hear (fun r => (serve r).act env hear) text given (v, w') = (result, v', w'') ∧
      Account ⟨env, hear, direct, level, requireComma, w⟩ ds (v, w') ∧
      Account ⟨env, hear, direct, level, requireComma, w⟩ (ds ++ later) (v', w'') ∧
      ∀ e, result = .error e → (∃ t, text = some t ∧ .begun t ∈ later) ∧ v'.stepper.inFlight = false ∧
        v'.position = later.foldl (Deed.place level) v.position ∧
        ((∀ recording, .left recording ∉ later) → (∀ d ∈ later, d.arrives = false) → v'.position = level.start) := by
  let o : Opening σ := ⟨env, hear, direct, level, requireComma, w⟩
  obtain ⟨result₀, ds, v, w', hact, hacc, -⟩ := c.extends_of_none (o := o) .opened rfl
  have hserve : Attends o fun r => (serve r).act env hear := fun r ds v w h hv => (serve r).act_extends h hv
  have hreached : (c.act env hear ({ level, requireComma }, w)).2 = (v, w') := congrArg Prod.snd hact
  rw [hreached] at hidle
  obtain ⟨result, later, v', w'', hsubmitted, hacc', mid, hlater, hjudged⟩ :=
    (submission_extends hserve text given hacc).exists_eq
  refine ⟨v, w', result, v', w'', ds, later, hreached, hsubmitted, hacc, hacc', ?_⟩
  rintro e rfl
  obtain ⟨t, rest, ht, hbegun, hidle', -⟩ := hjudged.of_error hidle
  have hposition : v'.position = later.foldl (Deed.place level) v.position := by
    rw [hacc'.position_eq, List.foldl_append, ← hacc.position_eq]
  have hmid : ∀ {d : Deed}, d ∈ mid → d ∈ later := by
    intro d hd
    rw [hlater]
    exact List.mem_cons_of_mem _ (List.mem_append_left _ hd)
  refine ⟨⟨t, ht, hmid (hbegun ▸ List.mem_cons_self)⟩, hidle', hposition, fun hstays hhurt => ?_⟩
  -- Neither beginning nor answering a submission moves the character.
  rw [hposition, hlater, List.foldl_cons, List.foldl_append]
  exact hjudged.place_of_error level v.position hidle (fun recording hleft => hstays recording (hmid hleft))
    fun d hd => hhurt d (hmid hd)

/-- A player in the lane who has walked one step and walks it again, and a display that leaves when it shows this
    step. No record can be taken. -/
def laneDisplay : Rehearsal where
  desk := { recorder := some { keeping := .failing } }
  plan := some [(3, .leave (some (.whole 2)))]

/-- A caller that submits a single step. -/
def laneStroll : Caller Rehearsal False :=
  .submit (some "D1") (some (.whole 0)) (Caller.ofRequest False 0) fun _ => .done

theorem lane_failure_returns_to_start_unless_left :
    (laneStroll.act Rehearsal.surroundings (fun _ r => r) ({ level := lane }, laneDisplay)).2.1.stepper.inFlight = false ∧
      ∃ v r result v' r' ds later,
        (laneStroll.act Rehearsal.surroundings (fun _ r => r) ({ level := lane }, laneDisplay)).2 = (v, r) ∧
        submission Rehearsal.surroundings (fun _ r => r)
          (fun q => (Caller.ofRequest False 0 q).act Rehearsal.surroundings fun _ r => r) (some "D1") (some (.whole 1))
          (v, r) = (result, v', r') ∧
        Account ⟨Rehearsal.surroundings, fun _ r => r, False, lane, true, laneDisplay⟩ ds (v, r) ∧
        Account ⟨Rehearsal.surroundings, fun _ r => r, False, lane, true, laneDisplay⟩ (ds ++ later) (v', r') ∧
        ∀ e, result = .error e → (∃ t, some "D1" = some t ∧ .begun t ∈ later) ∧ v'.stepper.inFlight = false ∧
          v'.position = later.foldl (Deed.place lane) v.position ∧
          ((∀ recording, .left recording ∉ later) → (∀ d ∈ later, d.arrives = false) → v'.position = lane.start) :=
  have hidle : (laneStroll.act Rehearsal.surroundings (fun _ r => r)
      ({ level := lane }, laneDisplay)).2.1.stepper.inFlight = false := by decide +kernel
  ⟨hidle, failure_returns_to_start_unless_left Rehearsal.surroundings (fun _ r => r) lane true laneStroll laneDisplay
    hidle (some "D1") (some (.whole 1)) (Caller.ofRequest False 0)⟩

/-- There the second submission fails once its walk was begun, because the departure cannot be recorded, and the
    character stays where the first walk ended. -/
theorem lane_failure_stays_on_the_way :
    let stood := submit Rehearsal.surroundings 1 (some "D1") (some (.whole 0)) ({ level := lane }, laneDisplay)
    let failed := submit Rehearsal.surroundings 1 (some "D1") (some (.whole 1)) stood.2
    (stood.2.1.stepper.inFlight = false ∧ stood.2.1.lastWalk.map (·.energized) = some true) ∧
      failed.1 = .error (.recorder .diskFull) ∧ failed.2.1.lastWalk.map (·.energized) = some false ∧
      failed.2.1.stepper.inFlight = false ∧ failed.2.1.position = ⟨1, 0⟩ ∧ lane.start = ⟨0, 0⟩ := by decide +kernel

end Visit
end GridWalk
