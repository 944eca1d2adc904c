import GridWalk.Proofs.Walk.Sharing

/-! Whose walk it is. A stage may be asked for the next event of a replay or to close one, and its stepper may be called
    directly. A replay whose walk was ended by others is stranded until it ends itself. A stranded replay takes the walk
    in progress for its own, whoever began it; every other replay leaves a walk alone that is not its own. -/

namespace GridWalk.Walk

/-- What is asked of a stage. -/
inductive Request
  | cue (c : Cue)
  /-- The stepper is called directly. -/
  | call (c : Call)
deriving DecidableEq, Repr

/-- Who begins a walk: a replay, or a caller of the stepper. -/
inductive Owner
  | replay (i : Nat)
  | caller
deriving DecidableEq, Repr

/-- A request is a cue for the replay at the place `i`. -/
def Request.isFor (s : Stage) (i : Nat) : Request → Bool
  | cue c => s.index? c.number = some i
  | call _ => false

/-- Who begins a walk if a request begins one. -/
def Request.beginner (s : Stage) : Request → Option Owner
  | cue c => (s.index? c.number).map .replay
  | call _ => some .caller

/-- The event that a request is answered with if it is a cue for the replay at the place `i`. -/
def Request.given (level : Level) (s : Stage) (i : Nat) : Request → Option Event
  | cue c => Scene.givenBy i ⟨c, s, (s.answer level c).1⟩
  | call _ => none

/-- The stage after a request. -/
def Stage.after (level : Level) (s : Stage) : Request → Stage
  | .cue c => (s.answer level c).2
  | .call c => { s with stepper := s.stepper.afterCall level c }

/-- A stage as it is watched from outside. -/
structure Watch where
  stage : Stage
  /-- Who began the walk in progress. -/
  owner : Option Owner
  /-- The replays whose walk was ended by others and that gave out an event whenever they were asked since. -/
  stranded : List Nat

namespace Watch

/-- A stage before anything is asked of it: a walk in progress there was begun by a caller. -/
def opening (w : Stepper) (family : List (List Move)) : Watch where
  stage := { stepper := w, replays := family.map .waiting }
  owner := if w.inFlight then some .caller else none
  stranded := []

/-- Who owns the walk in progress after a request: who owned it before, or the beginner of a new one. -/
def ownerAfter (level : Level) (s : Watch) (r : Request) : Option Owner :=
  if (s.stage.after level r).stepper.inFlight then
    if s.stage.stepper.inFlight then s.owner else r.beginner s.stage
  else none

/-- The owner of the walk in progress if it is a replay whose walk a request ends that is no cue for it. -/
def strandedBy (level : Level) (s : Watch) (r : Request) : List Nat :=
  match s.owner with
  | some (.replay i) => if (s.ownerAfter level r).isNone && !r.isFor s.stage i then [i] else []
  | _ => []

/-- The watch after a request. -/
def after (level : Level) (s : Watch) (r : Request) : Watch where
  stage := s.stage.after level r
  owner := s.ownerAfter level r
  stranded := (s.stranded.filter fun i => !r.isFor s.stage i || (r.given level s.stage i).isSome) ++ s.strandedBy level r

/-- The watch after requests one after the other. -/
def afterAll (level : Level) (s : Watch) (requests : List Request) : Watch := requests.foldl (after level) s

end Watch

variable {level : Level} {w v : Stepper} {i : Nat}

/-! ### One replay -/

/-- What a cue does to a replay `r`, which becomes `r'`, and to the stepper. It is suspended after it gave out an event,
    which it does only if it began a walk or had been suspended; otherwise it leaves the stepper alone or, if it had been
    suspended, no walk is in progress any more. -/
structure Replay.Acts (r : Replay) (w : Stepper) (given : Option Event) (r' : Replay) (v : Stepper) : Prop where
  suspended_iff : r' = .suspended ↔ given.isSome = true
  walks : given.isSome = true → v.inFlight = true ∧ (w.inFlight = true ↔ r = .suspended)
  leaves : given = none → (r ≠ .suspended ∧ v = w) ∨ (r = .suspended ∧ v.inFlight = false)

namespace Replay

theorem next_of_not_shown (h : w.shownEvent? = none) :
    suspended.next level w = (.error .nothingShown, .finished, w.abort) := by
  have hack : w.acknowledge level = .error .nothingShown := by
    cases w with
    | shown => cases h
    | untouched | resting | ready | queued => rfl
  rw [next, hack]

theorem next_acts (level : Level) (r : Replay) (w : Stepper) :
    r.Acts w (r.next level w).1.toOption.join (r.next level w).2.1 (r.next level w).2.2 := by
  cases r with
  | waiting moves =>
    cases hfly : w.inFlight with
    | true =>
      rw [next_of_inFlight level moves hfly]
      exact ⟨iff_of_false nofun nofun, nofun, fun _ => .inl ⟨nofun, rfl⟩⟩
    | false =>
      obtain ⟨e, v, hnext, hshown, -⟩ := next_of_idle level moves hfly
      rw [hnext]
      exact ⟨iff_of_true rfl rfl, fun _ => ⟨Stepper.inFlight_of_shown hshown, iff_of_false (hfly ▸ nofun) nofun⟩, nofun⟩
  | suspended =>
    cases hshown : w.shownEvent? with
    | none =>
      rw [next_of_not_shown hshown]
      exact ⟨iff_of_false nofun nofun, nofun, fun _ => .inr ⟨rfl, w.inFlight_abort⟩⟩
    | some e =>
      have hfly := Stepper.inFlight_of_shown hshown
      rcases next_of_shown level hshown with ⟨e', v, hnext, hshown', -⟩ | ⟨v, hnext, hidle, -⟩
      · rw [hnext]
        exact ⟨iff_of_true rfl rfl, fun _ => ⟨Stepper.inFlight_of_shown hshown', iff_of_true hfly rfl⟩, nofun⟩
      · rw [hnext]
        exact ⟨iff_of_false nofun nofun, nofun, fun _ => .inr ⟨rfl, hidle⟩⟩
  | finished => exact ⟨iff_of_false nofun nofun, nofun, fun _ => .inl ⟨nofun, rfl⟩⟩

theorem close_acts (r : Replay) (w : Stepper) : r.Acts w none (r.close w).1 (r.close w).2 := by
  cases r with
  | waiting | finished => exact ⟨iff_of_false nofun nofun, nofun, fun _ => .inl ⟨nofun, rfl⟩⟩
  | suspended => exact ⟨iff_of_false nofun nofun, nofun, fun _ => .inr ⟨rfl, w.inFlight_abort⟩⟩

end Replay

/-- What a cue does to the replay that it is for. -/
theorem Stage.answer_acts (level : Level) {s : Stage} {c : Cue} {r : Replay} (hi : s.index? c.number = some i)
    (hr : s.replays[i]? = some r) : ∃ r' v, (s.answer level c).2 = { stepper := v, replays := s.replays.set i r' } ∧
      r.Acts s.stepper (s.answer level c).1.toOption.join r' v := by
  cases c with
  | next n =>
    have hnext : s.answer level (.next n) = _ := next_of_index level hi hr
    have hacts := r.next_acts level s.stepper
    refine ⟨_, _, congrArg Prod.snd hnext, ?_⟩
    rw [hnext]
    cases hgiven : (r.next level s.stepper).1 <;> rw [hgiven] at hacts <;> exact hacts
  | close n =>
    have hclose : s.answer level (.close n) = _ := answer_close_of_index hi hr
    refine ⟨_, _, congrArg Prod.snd hclose, ?_⟩
    rw [hclose]
    exact r.close_acts s.stepper

/-! ### One request -/

namespace Watch
variable {s : Watch} {r : Request}

theorem mem_stranded_after : i ∈ (s.after level r).stranded ↔
    i ∈ s.stranded ∧ (r.isFor s.stage i = true → (r.given level s.stage i).isSome = true) ∨
      s.owner = some (.replay i) ∧ s.ownerAfter level r = none ∧ r.isFor s.stage i = false := by
  have hby : i ∈ s.strandedBy level r ↔
      s.owner = some (.replay i) ∧ s.ownerAfter level r = none ∧ r.isFor s.stage i = false := by
    unfold strandedBy
    split
    · rename_i k howner
      rw [howner, Option.some.injEq, Owner.replay.injEq, List.mem_ite_nil_right, List.mem_singleton, Bool.and_eq_true,
        Option.isNone_iff_eq_none, Bool.not_eq_true']
      constructor
      · rintro ⟨⟨hnone, hfor⟩, rfl⟩
        exact ⟨rfl, hnone, hfor⟩
      · rintro ⟨rfl, hnone, hfor⟩
        exact ⟨⟨hnone, hfor⟩, rfl⟩
    · rename_i hother
      exact iff_of_false List.not_mem_nil fun h => hother i h.1
  rw [after, List.mem_append, List.mem_filter, hby]
  cases r.isFor s.stage i <;> simp

/-- A watch has kept track: a walk in progress has an owner, and the suspended replays are the one that owns it and the
    stranded ones. -/
structure Traced (s : Watch) : Prop where
  owned : s.stage.stepper.inFlight = true ↔ s.owner.isSome = true
  suspended_iff : ∀ i : Nat, s.stage.replays[i]? = some .suspended ↔ s.owner = some (.replay i) ∨ i ∈ s.stranded

theorem traced_opening (w : Stepper) (family : List (List Move)) : (opening w family).Traced where
  owned := by
    cases hfly : w.inFlight <;> simp [opening, hfly]
  suspended_iff i := by
    refine iff_of_false ?_ ?_
    · rw [opening, List.getElem?_map]
      cases family[i]? <;> exact nofun
    · cases hfly : w.inFlight <;> simp [opening, hfly]

namespace Traced

theorem ownerAfter_of_idle (hfly : (s.stage.after level r).stepper.inFlight = false) : s.ownerAfter level r = none := by
  rw [ownerAfter, hfly]
  rfl

/-- A walk that goes on keeps its owner. -/
theorem ownerAfter_of_inFlight (hfly : s.stage.stepper.inFlight = true)
    (hafter : (s.stage.after level r).stepper.inFlight = true) : s.ownerAfter level r = s.owner := by
  rw [ownerAfter, if_pos hafter, if_pos hfly]

/-- A walk that was begun is owned by who began it. -/
theorem ownerAfter_of_begun (hfly : s.stage.stepper.inFlight = false)
    (hafter : (s.stage.after level r).stepper.inFlight = true) : s.ownerAfter level r = r.beginner s.stage := by
  rw [ownerAfter, if_pos hafter, hfly]
  rfl

theorem owned_after (h : s.Traced) (r : Request) :
    (s.stage.after level r).stepper.inFlight = true ↔ (s.ownerAfter level r).isSome = true := by
  cases hafter : (s.stage.after level r).stepper.inFlight with
  | false => rw [ownerAfter_of_idle hafter]; exact iff_of_false nofun nofun
  | true =>
    refine iff_of_true rfl ?_
    cases hfly : s.stage.stepper.inFlight with
    | true =>
      rw [ownerAfter_of_inFlight hfly hafter]
      exact h.owned.mp hfly
    | false =>
      rw [ownerAfter_of_begun hfly hafter]
      cases r with
      | call c => rfl
      | cue c =>
        cases hi : s.stage.index? c.number with
        | some i =>
          rw [Request.beginner, hi]
          rfl
        | none =>
          rw [Stage.after, Stage.answer_of_none hi, hfly] at hafter
          cases hafter

/-- A request leaves a replay as it is for which it is no cue. -/
theorem getElem?_after (hfor : r.isFor s.stage i = false) : (s.stage.after level r).replays[i]? = s.stage.replays[i]? := by
  cases r with
  | call c => rfl
  | cue c =>
    rw [Stage.after]
    cases hk : s.stage.index? c.number with
    | none => rw [Stage.answer_of_none hk]
    | some k =>
      obtain ⟨r, hr⟩ := Stage.exists_replay hk
      obtain ⟨r', v, hafter, -⟩ := Stage.answer_acts level hk hr
      rw [hafter]
      refine List.getElem?_set_ne ?_
      rintro rfl
      exact absurd hk (of_decide_eq_false hfor)

theorem suspended_iff_of_not_for (h : s.Traced) (hfor : r.isFor s.stage i = false) :
    (s.stage.after level r).replays[i]? = some .suspended ↔
      s.ownerAfter level r = some (.replay i) ∨ i ∈ (s.after level r).stranded := by
  rw [getElem?_after hfor, h.suspended_iff, mem_stranded_after, hfor]
  simp only [Bool.false_eq_true, false_implies, and_true]
  cases hafter : (s.stage.after level r).stepper.inFlight with
  | false =>
    rw [ownerAfter_of_idle hafter]
    simp only [reduceCtorEq, false_or, and_true]
    exact or_comm
  | true =>
    cases hfly : s.stage.stepper.inFlight with
    | true =>
      obtain ⟨o, howner⟩ := Option.isSome_iff_exists.mp (h.owned.mp hfly)
      rw [ownerAfter_of_inFlight hfly hafter, howner]
      simp only [reduceCtorEq, and_false, or_false]
    | false =>
      have hnone : s.owner = none := by
        rw [← Option.not_isSome_iff_eq_none, ← h.owned, hfly]
        exact Bool.false_ne_true
      have hnot : r.beginner s.stage ≠ some (.replay i) := by
        cases r with
        | call c => exact nofun
        | cue c =>
          intro hbegins
          obtain ⟨k, hk, hsame⟩ := Option.map_eq_some_iff.mp hbegins
          cases hsame
          exact absurd hk (of_decide_eq_false hfor)
      rw [ownerAfter_of_begun hfly hafter, hnone]
      simp only [hnot, reduceCtorEq, false_and, or_false, false_or]

/-- A cue for a replay leaves it suspended if it owns the walk in progress then, or was stranded and gave out an event. -/
theorem suspended_iff_of_for (h : s.Traced) (hfor : r.isFor s.stage i = true) :
    (s.stage.after level r).replays[i]? = some .suspended ↔
      s.ownerAfter level r = some (.replay i) ∨ i ∈ (s.after level r).stranded := by
  cases r with
  | call c => cases hfor
  | cue c =>
    have hi : s.stage.index? c.number = some i := of_decide_eq_true hfor
    obtain ⟨p, hp⟩ := Stage.exists_replay hi
    obtain ⟨p', v, hafter, hacts⟩ := Stage.answer_acts level hi hp
    have hgiven : (Request.cue c).given level s.stage i = (s.stage.answer level c).1.toOption.join := if_pos hi
    have hbefore := h.suspended_iff i
    rw [hp, Option.some.injEq] at hbefore
    have hflying : (s.stage.after level (.cue c)).stepper.inFlight = v.inFlight := by rw [Stage.after, hafter]
    rw [mem_stranded_after, hfor, hgiven, Stage.after, hafter, Stage.getElem?_set_self hp, Option.some.injEq,
      hacts.suspended_iff]
    constructor
    · -- It gave out an event: of a walk that it began just now, or of the walk that was in progress.
      intro hsome
      obtain ⟨hwalks, hbegan⟩ := hacts.walks hsome
      cases hfly : s.stage.stepper.inFlight with
      | false =>
        refine .inl ((ownerAfter_of_begun hfly (hflying.trans hwalks)).trans ?_)
        rw [Request.beginner, hi, Option.map_some]
      | true =>
        rcases hbefore.mp (hbegan.mp hfly) with howner | hstranded
        · exact .inl ((ownerAfter_of_inFlight hfly (hflying.trans hwalks)).trans howner)
        · exact .inr (.inl ⟨hstranded, fun _ => hsome⟩)
    · rintro (howner | ⟨-, hsome⟩ | ⟨-, -, hnot⟩)
      · -- An owner that gave out no event would have left its walk alone without being suspended, or ended it.
        have hwalks : v.inFlight = true := by
          rw [← hflying, h.owned_after, howner]
          rfl
        refine Option.isSome_iff_ne_none.mpr fun hnone => ?_
        rcases hacts.leaves hnone with ⟨hnot, rfl⟩ | ⟨-, hidle⟩
        · rw [ownerAfter_of_inFlight hwalks (hflying.trans hwalks)] at howner
          exact hnot (hbefore.mpr (.inl howner))
        · rw [hidle] at hwalks
          cases hwalks
      · exact hsome rfl
      · cases hnot

theorem after (h : s.Traced) (r : Request) : (s.after level r).Traced where
  owned := h.owned_after r
  suspended_iff i := by
    cases hfor : r.isFor s.stage i with
    | false => exact h.suspended_iff_of_not_for hfor
    | true => exact h.suspended_iff_of_for hfor

theorem afterAll (h : s.Traced) (requests : List Request) : (s.afterAll level requests).Traced := by
  induction requests generalizing s with
  | nil => exact h
  | cons r requests ih => exact ih (h.after r)

end Traced
end Watch

/-! ### Cues for replays that own no walk in progress -/

/-- What cues for a suspended replay do to the walk in progress: it is broken off if the replay is closed, and if the
    replay goes on but no event is shown; an event that is shown is acknowledged, and the replay gives out the next one,
    if there is one. -/
structure Stage.Usurps (level : Level) (s : Stage) (n : Int) : Prop where
  closes : (s.answer level (.close n)).2.stepper = s.stepper.abort
  breaksOff : s.stepper.shownEvent? = none → (s.answer level (.next n)).1 = .error (.stepper .nothingShown) ∧
    (s.answer level (.next n)).2.stepper = s.stepper.abort
  goesOn : ∀ e, s.stepper.shownEvent? = some e → ∃ v, s.stepper.acknowledge level = .ok v ∧
    ((∃ e' v', v.step level = .ok (e', v') ∧ (s.answer level (.next n)).1 = .ok (some e') ∧
        (s.answer level (.next n)).2.stepper = v') ∨
      (v.inFlight = false ∧ (s.answer level (.next n)).1 = .ok none ∧ (s.answer level (.next n)).2.stepper = v))

theorem Stage.usurps_of_suspended (level : Level) {s : Stage} {n : Int} (hi : s.index? n = some i)
    (hr : s.replays[i]? = some .suspended) : s.Usurps level n := by
  have hnext : s.answer level (.next n) = _ := next_of_index level hi hr
  refine ⟨?_, fun hnone => ?_, fun e hshown => ?_⟩
  · rw [answer_close_of_index hi hr]
    rfl
  · rw [hnext, Replay.next_of_not_shown hnone]
    exact ⟨rfl, rfl⟩
  · obtain ⟨v, hack⟩ := Stepper.acknowledge_of_shown level hshown
    have hgoes : Replay.suspended.next level s.stepper = Replay.giveOut level v := by
      rw [Replay.next, hack]
    refine ⟨v, hack, ?_⟩
    rw [hnext, hgoes]
    cases hfly : v.inFlight with
    | false =>
      rw [Replay.giveOut_of_idle hfly]
      exact .inr ⟨rfl, rfl, rfl⟩
    | true =>
      obtain ⟨e', v', hstep⟩ := Stepper.exists_step level hfly (Stepper.shownEvent?_of_acknowledge hack).2
      rw [Replay.giveOut, hfly, if_pos rfl, hstep]
      exact .inl ⟨e', v', rfl, rfl, rfl⟩

/-- A replay that is not suspended leaves a walk in progress alone. -/
theorem Stage.stepper_answer_of_not_suspended (level : Level) {s : Stage} {c : Cue} (hi : s.index? c.number = some i)
    (hnot : s.replays[i]? ≠ some .suspended) (hfly : s.stepper.inFlight = true) :
    (s.answer level c).2.stepper = s.stepper := by
  obtain ⟨r, hr⟩ := exists_replay hi
  obtain ⟨r', v, hafter, hacts⟩ := answer_acts level hi hr
  have hr' : r ≠ .suspended := by
    rintro rfl
    exact hnot hr
  rw [hafter]
  cases hgiven : (s.answer level c).1.toOption.join with
  | some e =>
    rw [hgiven] at hacts
    exact absurd ((hacts.walks rfl).2.mp hfly) hr'
  | none => exact ((hacts.leaves hgiven).resolve_right fun h => hr' h.1).2

/-- Whatever was asked before, a walk in progress is left alone by a replay that does not own it, whether the replay is
    asked to go on or closed, unless the replay is stranded. A stranded replay takes the walk for its own: it
    acknowledges its events, gives out the next ones and breaks it off. -/
theorem walk_left_alone_unless_stranded (level : Level) (w : Stepper) (family : List (List Move))
    (requests : List Request) (n : Int) (i : Nat) :
    let s := (Watch.opening w family).afterAll level requests
    s.stage.index? n = some i → s.stage.stepper.inFlight = true → s.owner ≠ some (.replay i) →
      (i ∉ s.stranded → ∀ c : Cue, c.number = n → (s.stage.answer level c).2.stepper = s.stage.stepper) ∧
      (i ∈ s.stranded → s.stage.Usurps level n) := by
  intro s hi hfly howner
  have htraced : s.Traced := (Watch.traced_opening w family).afterAll requests
  refine ⟨fun hnot c hc => ?_, fun hstranded => ?_⟩
  · subst hc
    refine Stage.stepper_answer_of_not_suspended level hi (fun hsuspended => ?_) hfly
    exact ((htraced.suspended_iff i).mp hsuspended).elim howner hnot
  · exact Stage.usurps_of_suspended level hi ((htraced.suspended_iff i).mpr (.inr hstranded))

/-- A replay gives out its first event, its walk is aborted, and the caller walks on the same stepper. -/
def usurpedRequests : List Request := [.cue (.next 0), .call .abort, .call (.start laneMoves), .call .step]

theorem usurped_walk_left_alone_unless_stranded :
    let s := (Watch.opening .untouched [laneMoves, laneMoves]).afterAll lane usurpedRequests
    (s.stage.index? 0 = some 0 ∧ s.stage.index? 1 = some 1 ∧ s.stage.stepper.inFlight = true ∧
      s.owner = some .caller ∧ s.stranded = [0]) ∧ s.stage.Usurps lane 0 ∧
      ∀ c : Cue, c.number = 1 → (s.stage.answer lane c).2.stepper = s.stage.stepper := by
  have hrun := walk_left_alone_unless_stranded lane .untouched [laneMoves, laneMoves] usurpedRequests
  exact ⟨by decide +kernel, (hrun 0 0 (by decide) (by decide) (by decide)).2 (by decide),
    (hrun 1 1 (by decide) (by decide) (by decide)).1 (by decide)⟩

/-- The walk that the caller has begun since is broken off when the stranded replay is closed, and its event is
    acknowledged when the replay is asked to go on. -/
theorem stranded_replay_takes_walk :
    let s := (Watch.opening .untouched [laneMoves]).afterAll lane usurpedRequests
    (s.owner = some .caller ∧ s.stage.stepper.inFlight = true ∧
      s.stage.stepper.shownEvent?.map (·.kind) = some .moved) ∧
    (s.stage.answer lane (.close 0)).2.stepper.inFlight = false ∧
    (s.stage.answer lane (.next 0)).2.stepper.shownEvent?.map (·.kind) = some .collectedEnergy := by decide +kernel

end GridWalk.Walk
