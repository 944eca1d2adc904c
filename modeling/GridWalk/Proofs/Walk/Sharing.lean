import GridWalk.Proofs.Walk.Delivery
import GridWalk.Walk.Replay

/-! Replays that share one stepper. Whatever is asked of them, and in whatever order, at most one of them is suspended,
    and it is the one whose walk is in progress. What a replay gave out and what it is still to give out make up the
    events of the walk of its own moves, unless it was closed, or refused because another one walked. -/

namespace GridWalk.Walk

/-- What is asked of replays: the next event of one of them, or to end one. -/
inductive Cue
  | next (number : Int)
  | close (number : Int)
deriving DecidableEq, Repr

/-- The number of the replay that a cue is for. -/
def Cue.number : Cue → Int
  | next n | close n => n

/-- What a stage answers to a cue, and the stage after it. -/
def Stage.answer (level : Level) (s : Stage) : Cue → Except StageError (Option Event) × Stage
  | .next n => s.next level n
  | .close n => ((s.close n).1.map fun _ => none, (s.close n).2)

/-- A cue with the stage that it found and the answer to it. -/
structure Scene where
  cue : Cue
  before : Stage
  answer : Except StageError (Option Event)

namespace Scene

/-- The event that the replay at the place `i` gave out. -/
def givenBy (i : Nat) (c : Scene) : Option Event :=
  if c.before.index? c.cue.number = some i then c.answer.toOption.join else none

/-- The replay had no further event to give out. -/
def Exhausts (i : Nat) (c : Scene) : Prop :=
  ∃ n, c.cue = .next n ∧ c.before.index? n = some i ∧ c.answer = .ok none

/-- The replay was closed. -/
def Closes (i : Nat) (c : Scene) : Prop := ∃ n, c.cue = .close n ∧ c.before.index? n = some i

/-- The replay was not begun because another one walked. -/
def Refuses (i : Nat) (c : Scene) : Prop :=
  ∃ n, c.cue = .next n ∧ c.before.index? n = some i ∧ c.answer = .error (.stepper .busy)

end Scene

/-- Scenes one after the other, and the stage after them. -/
structure Performance where
  scenes : List Scene
  last : Stage

/-- The events that the replay at the place `i` gave out. -/
def Performance.given (p : Performance) (i : Nat) : List Event := p.scenes.filterMap (Scene.givenBy i)

/-- The scenes to which cues lead on a stage, and the stage that is left. -/
def Stage.play (level : Level) : List Cue → Stage → Performance
  | [], s => ⟨[], s⟩
  | c :: cs, s =>
    let later := play level cs (s.answer level c).2
    ⟨⟨c, s, (s.answer level c).1⟩ :: later.scenes, later.last⟩

/-- The events that a replay is still to give out if it is let go on alone. -/
def Replay.promised (level : Level) (w : Stepper) : Replay → List Event
  | waiting moves => events level moves
  | suspended => w.toCome level
  | finished => []

/-- The events that a replay has still to give out on a stage. -/
def Stage.promised (level : Level) (s : Stage) (i : Nat) : List Event :=
  ((s.replays[i]?).getD .finished).promised level s.stepper

variable {level : Level} {w v : Stepper} {e : Event} {moves : List Move}

/-! ### One replay -/

namespace Replay

theorem giveOut_of_idle (h : w.inFlight = false) : giveOut level w = (.ok none, .finished, w) := by
  rw [giveOut, h]
  rfl

theorem giveOut_of_inFlight (level : Level) (hfly : w.inFlight = true) (hnone : w.shownEvent? = none) :
    ∃ e v, giveOut level w = (.ok (some e), .suspended, v) ∧ v.shownEvent? = some e ∧
      w.toCome level = e :: v.toCome level := by
  obtain ⟨e, v, hstep⟩ := Stepper.exists_step level hfly hnone
  refine ⟨e, v, ?_, (Stepper.shownEvent?_of_step hstep).2, (Stepper.toCome_of_step hstep).1⟩
  rw [giveOut, hfly, if_pos rfl, hstep]

/-- A replay that is begun gives out the first event of its walk. -/
theorem next_of_idle (level : Level) (moves : List Move) (h : w.inFlight = false) :
    ∃ e v, (waiting moves).next level w = (.ok (some e), .suspended, v) ∧ v.shownEvent? = some e ∧
      events level moves = e :: v.toCome level := by
  have hstart : w.start level moves = .ok (.ready { position := level.start } moves) := by
    rw [Stepper.start, h]
    rfl
  obtain ⟨e, v, hgiven, hshown, hcome⟩ :=
    giveOut_of_inFlight level (w := .ready { position := level.start } moves) rfl rfl
  refine ⟨e, v, ?_, hshown, hcome⟩
  rw [next, hstart]
  exact hgiven

theorem next_of_inFlight (level : Level) (moves : List Move) (h : w.inFlight = true) :
    (waiting moves).next level w = (.error .busy, .finished, w) := by
  rw [next, Stepper.start, h]
  rfl

/-- A replay that goes on acknowledges the event that is shown and gives out the next one, if there is one. -/
theorem next_of_shown (level : Level) (h : w.shownEvent? = some e) :
    (∃ e' v, suspended.next level w = (.ok (some e'), .suspended, v) ∧ v.shownEvent? = some e' ∧
      w.toCome level = e' :: v.toCome level) ∨
    ∃ v, suspended.next level w = (.ok none, .finished, v) ∧ v.inFlight = false ∧ w.toCome level = [] := by
  obtain ⟨v, hack⟩ := Stepper.acknowledge_of_shown level h
  have hnext : suspended.next level w = giveOut level v := by
    rw [next, hack]
  rw [hnext, (Stepper.toCome_of_acknowledge hack).1]
  have hnone := (Stepper.shownEvent?_of_acknowledge hack).2
  cases hfly : v.inFlight with
  | true => exact .inl (giveOut_of_inFlight level hfly hnone)
  | false =>
    refine .inr ⟨v, giveOut_of_idle hfly, hfly, ?_⟩
    have hover := (Stepper.outstanding_of_idle level hfly).1
    rw [Stepper.outstanding, hnone] at hover
    exact hover

end Replay

/-! ### One scene -/

namespace Stage
variable {s : Stage} {i j : Nat} {n : Int} {r r' : Replay}

theorem exists_replay (h : s.index? n = some i) : ∃ r, s.replays[i]? = some r := by
  rw [index?] at h
  obtain ⟨⟨hnonneg, hlt⟩, hi⟩ := Option.ite_none_right_eq_some.mp h
  have hbound : i < s.replays.length := Option.some.inj hi ▸ (Int.toNat_lt hnonneg).mpr hlt
  exact ⟨_, List.getElem?_eq_getElem hbound⟩

theorem answer_of_none {c : Cue} (h : s.index? c.number = none) : s.answer level c = (.error .noReplay, s) := by
  cases c with
  | next n => rw [answer, next, show s.index? n = none from h]
  | close n =>
    rw [answer, close, show s.index? n = none from h]
    rfl

theorem next_of_index (level : Level) (h : s.index? n = some i) (hr : s.replays[i]? = some r) : s.next level n =
    ((r.next level s.stepper).1.mapError .stepper,
      { stepper := (r.next level s.stepper).2.2, replays := s.replays.set i (r.next level s.stepper).2.1 }) := by
  have hread : s.next level n = (((((s.replays[i]?).getD .finished).next level s.stepper).1.mapError .stepper,
      { stepper := (((s.replays[i]?).getD .finished).next level s.stepper).2.2
        replays := s.replays.set i (((s.replays[i]?).getD .finished).next level s.stepper).2.1 })) := by
    rw [next, h]
  rw [hread, hr, Option.getD_some]

theorem answer_close_of_index (h : s.index? n = some i) (hr : s.replays[i]? = some r) : s.answer level (.close n) =
    (.ok none, { stepper := (r.close s.stepper).2, replays := s.replays.set i (r.close s.stepper).1 }) := by
  have hread : s.answer level (.close n) = (.ok none, {
      stepper := (((s.replays[i]?).getD .finished).close s.stepper).2
      replays := s.replays.set i (((s.replays[i]?).getD .finished).close s.stepper).1 }) := by
    rw [answer, close, h]
    rfl
  rw [hread, hr, Option.getD_some]

/-- No walk is in progress and no replay suspended, or the one suspended replay owns the event that is shown. -/
inductive Ordered (s : Stage) : Prop
  | idle (hidle : s.stepper.inFlight = false) (hnone : ∀ j : Nat, s.replays[j]? ≠ some .suspended)
  | walking {i : Nat} {e : Event} (hshown : s.stepper.shownEvent? = some e)
    (howner : ∀ j : Nat, s.replays[j]? = some .suspended ↔ j = i)

theorem promised_of_getElem? (hr : s.replays[i]? = some r) : s.promised level i = r.promised level s.stepper := by
  rw [promised, hr]
  rfl

theorem getElem?_set_self (hr : s.replays[i]? = some r) (r' : Replay) : (s.replays.set i r')[i]? = some r' := by
  obtain ⟨hlt, -⟩ := List.getElem?_eq_some_iff.mp hr
  exact List.getElem?_set_self hlt

/-- The other replays keep what they are still to give out if a suspended one among them keeps its walk. -/
theorem promised_set_of_ne (hne : j ≠ i)
    (hkept : s.replays[j]? = some .suspended → v.toCome level = s.stepper.toCome level) :
    promised level { stepper := v, replays := s.replays.set i r' } j = s.promised level j := by
  have hsame : (s.replays.set i r')[j]? = s.replays[j]? := List.getElem?_set_ne hne.symm
  rw [promised, promised, hsame]
  cases hr : s.replays[j]? with
  | none => rfl
  | some r =>
    cases r with
    | waiting | finished => rfl
    | suspended => exact hkept hr

end Stage

open Stage

/-- What replays give out in scenes: each begins what it is still to give out. It gives out all of it in the end unless
    it is closed or refused. -/
structure Gives (level : Level) (scenes : List Scene) (s s' : Stage) : Prop where
  begins : ∀ i, scenes.filterMap (Scene.givenBy i) ++ s'.promised level i <+: s.promised level i
  all : ∀ i, (∀ c ∈ scenes, ¬c.Closes i ∧ ¬c.Refuses i) →
    scenes.filterMap (Scene.givenBy i) ++ s'.promised level i = s.promised level i
  exhausted : ∀ i, (∃ c ∈ scenes, c.Exhausts i) → s'.promised level i = []

namespace Gives
variable {cs cs' : List Scene} {s s' s'' : Stage} {i : Nat}

theorem nil (s : Stage) : Gives level [] s s where
  begins i := List.prefix_refl _
  all i _ := rfl
  exhausted i := by
    rintro ⟨c, hc, -⟩
    cases hc

theorem append (h : Gives level cs s s') (h' : Gives level cs' s' s'') : Gives level (cs ++ cs') s s'' where
  begins i := by
    rw [List.filterMap_append, List.append_assoc]
    exact ((List.prefix_append_right_inj _).mpr (h'.begins i)).trans (h.begins i)
  all i hopen := by
    rw [List.filterMap_append, List.append_assoc, h'.all i fun c hc => hopen c (List.mem_append_right cs hc)]
    exact h.all i fun c hc => hopen c (List.mem_append_left cs' hc)
  exhausted i := by
    rintro ⟨c, hc, hexhausts⟩
    rcases List.mem_append.mp hc with hc | hc
    · have hrest := h'.begins i
      rw [h.exhausted i ⟨c, hc, hexhausts⟩, List.prefix_nil] at hrest
      exact (List.append_eq_nil_iff.mp hrest).2
    · exact h'.exhausted i ⟨c, hc, hexhausts⟩

/-- Nothing is given out where nothing is left. -/
theorem given_eq_nil (h : Gives level cs s s') (hnil : s.promised level i = []) :
    cs.filterMap (Scene.givenBy i) = [] := by
  have hbegins := h.begins i
  rw [hnil, List.prefix_nil] at hbegins
  exact (List.append_eq_nil_iff.mp hbegins).1

/-- A cue for no replay. -/
theorem unanswered {c : Cue} (h : s.index? c.number = none) : Gives level [⟨c, s, .error .noReplay⟩] s s := by
  have hnobody : ∀ i, ¬s.index? c.number = some i := fun i hi => Option.some_ne_none i (hi.symm.trans h)
  have hgiven : ∀ i, [Scene.mk c s (.error .noReplay)].filterMap (Scene.givenBy i) = [] := by
    intro i
    rw [List.filterMap_cons, Scene.givenBy, if_neg (hnobody i)]
    rfl
  refine ⟨fun i => ?_, fun i _ => ?_, fun i => ?_⟩
  · rw [hgiven]
    exact List.prefix_refl _
  · rw [hgiven]
    rfl
  · rintro ⟨c', hc', n, hnext, hi, -⟩
    obtain rfl := List.mem_singleton.mp hc'
    obtain rfl : c = .next n := hnext
    exact absurd hi (hnobody i)

/-- A cue for one replay that leaves the walks of the others. -/
theorem single {c : Cue} {a : Except StageError (Option Event)} {r r' : Replay} {v : Stepper}
    (hi : s.index? c.number = some i) (hr : s.replays[i]? = some r)
    (hothers : ∀ j, j ≠ i → s.replays[j]? = some .suspended → v.toCome level = s.stepper.toCome level)
    (hown : a.toOption.join.toList ++ r'.promised level v = r.promised level s.stepper ∨
      (a.toOption.join = none ∧ r'.promised level v = [] ∧
        (Scene.Closes i ⟨c, s, a⟩ ∨ Scene.Refuses i ⟨c, s, a⟩)))
    (hend : Scene.Exhausts i ⟨c, s, a⟩ → r'.promised level v = []) :
    Gives level [⟨c, s, a⟩] s { stepper := v, replays := s.replays.set i r' } := by
  let s' : Stage := { stepper := v, replays := s.replays.set i r' }
  have hgiven : [Scene.mk c s a].filterMap (Scene.givenBy i) = a.toOption.join.toList := by
    have hself : Scene.givenBy i ⟨c, s, a⟩ = a.toOption.join := if_pos hi
    rw [List.filterMap_cons, hself]
    cases a.toOption.join with
    | none => rfl
    | some e => rfl
  have hleft : s'.promised level i = r'.promised level v := promised_of_getElem? (getElem?_set_self hr r')
  have hfirst : s.promised level i = r.promised level s.stepper := promised_of_getElem? hr
  have hrest : ∀ j, j ≠ i →
      [Scene.mk c s a].filterMap (Scene.givenBy j) ++ s'.promised level j = s.promised level j := by
    intro j hne
    have hnone : Scene.givenBy j ⟨c, s, a⟩ = none := if_neg fun hj => hne (Option.some.inj (hj.symm.trans hi))
    rw [List.filterMap_cons, hnone]
    exact promised_set_of_ne hne (hothers j hne)
  refine ⟨fun j => ?_, fun j hopen => ?_, fun j => ?_⟩
  · by_cases hj : j = i
    · subst hj
      rw [hgiven, hleft, hfirst]
      rcases hown with hall | ⟨hnone, hnil, -⟩
      · exact ⟨[], (List.append_nil _).trans hall⟩
      · rw [hnone, hnil]
        exact List.nil_prefix
    · exact ⟨[], (List.append_nil _).trans (hrest j hj)⟩
  · by_cases hj : j = i
    · subst hj
      rw [hgiven, hleft, hfirst]
      obtain ⟨hopened, hbegun⟩ := hopen _ List.mem_cons_self
      refine hown.resolve_right ?_
      rintro ⟨-, -, hclosed | hrefused⟩
      · exact hopened hclosed
      · exact hbegun hrefused
    · exact hrest j hj
  · rintro ⟨c', hc', n, hnext, hj, hanswer⟩
    obtain rfl := List.mem_singleton.mp hc'
    obtain rfl : c = .next n := hnext
    obtain rfl : j = i := Option.some.inj (hj.symm.trans hi)
    rw [hleft]
    exact hend ⟨n, rfl, hj, hanswer⟩

end Gives

namespace Stage.Ordered
variable {s : Stage} {i : Nat} {r r' : Replay}

theorem of_shown (hr : s.replays[i]? = some r) (hothers : ∀ j : Nat, j ≠ i → s.replays[j]? ≠ some .suspended)
    (hshown : v.shownEvent? = some e) : Ordered { stepper := v, replays := s.replays.set i .suspended } := by
  refine .walking (i := i) hshown fun j => ?_
  by_cases hj : j = i
  · subst hj
    exact iff_of_true (getElem?_set_self hr .suspended) rfl
  · refine iff_of_false ?_ hj
    rw [List.getElem?_set_ne (Ne.symm hj)]
    exact hothers j hj

theorem of_idle (hr : s.replays[i]? = some r) (hothers : ∀ j : Nat, j ≠ i → s.replays[j]? ≠ some .suspended)
    (hidle : v.inFlight = false) : Ordered { stepper := v, replays := s.replays.set i .finished } := by
  refine .idle hidle fun j => ?_
  by_cases hj : j = i
  · subst hj
    rw [getElem?_set_self hr .finished]
    exact nofun
  · rw [List.getElem?_set_ne (Ne.symm hj)]
    exact hothers j hj

/-- A replay that is not suspended may be finished. -/
theorem finish (h : s.Ordered) (hr : s.replays[i]? = some r) (hnot : r ≠ .suspended) :
    Ordered { s with replays := s.replays.set i .finished } := by
  have hi : s.replays[i]? ≠ some .suspended := fun hsuspended => hnot (Option.some.inj (hr.symm.trans hsuspended))
  cases h with
  | idle hidle hnone => exact .of_idle hr (fun j _ => hnone j) hidle
  | @walking k e hshown howner =>
    refine .walking (i := k) hshown fun j => ?_
    by_cases hj : j = i
    · subst hj
      refine iff_of_false ?_ fun hk => hi ((howner j).mpr hk)
      rw [getElem?_set_self hr .finished]
      exact nofun
    · rw [List.getElem?_set_ne (Ne.symm hj)]
      exact howner j

/-- The walk in progress is that of the suspended replay. -/
theorem shown_of_suspended (h : s.Ordered) (hi : s.replays[i]? = some .suspended) :
    (∃ e, s.stepper.shownEvent? = some e) ∧ ∀ j : Nat, j ≠ i → s.replays[j]? ≠ some .suspended := by
  cases h with
  | idle hidle hnone => exact absurd hi (hnone i)
  | walking hshown howner =>
    obtain rfl := (howner i).mp hi
    exact ⟨⟨_, hshown⟩, fun j hj hsuspended => hj ((howner j).mp hsuspended)⟩

theorem inFlight_iff (h : s.Ordered) : s.stepper.inFlight = true ↔ .suspended ∈ s.replays := by
  rw [List.mem_iff_getElem?]
  cases h with
  | idle hidle hnone =>
    refine iff_of_false ?_ fun ⟨j, hj⟩ => hnone j hj
    rw [hidle]
    exact Bool.false_ne_true
  | @walking i e hshown howner =>
    exact iff_of_true (Stepper.inFlight_of_shown hshown) ⟨i, (howner i).mpr rfl⟩

/-- A replay that is begun is refused where another one walks. -/
theorem next_waiting (h : s.Ordered) {n : Int} (hi : s.index? n = some i)
    (hr : s.replays[i]? = some (.waiting moves)) :
    Gives level [⟨.next n, s, (s.next level n).1⟩] s (s.next level n).2 ∧ (s.next level n).2.Ordered := by
  rw [next_of_index level hi hr]
  cases hfly : s.stepper.inFlight with
  | true =>
    rw [Replay.next_of_inFlight level moves hfly]
    exact ⟨.single hi hr (fun _ _ _ => rfl) (.inr ⟨rfl, rfl, .inr ⟨n, rfl, hi, rfl⟩⟩) nofun, h.finish hr nofun⟩
  | false =>
    obtain ⟨e, v, hnext, hshown, hevents⟩ := Replay.next_of_idle level moves hfly
    have hnone : ∀ j : Nat, s.replays[j]? ≠ some .suspended := fun j hj => by
      obtain ⟨⟨e, he⟩, -⟩ := h.shown_of_suspended hj
      exact absurd (hfly.symm.trans (Stepper.inFlight_of_shown he)) Bool.false_ne_true
    rw [hnext]
    exact ⟨.single hi hr (fun j _ hj => absurd hj (hnone j)) (.inl hevents.symm) nofun,
      .of_shown hr (fun j _ => hnone j) hshown⟩

theorem next_suspended (h : s.Ordered) {n : Int} (hi : s.index? n = some i) (hr : s.replays[i]? = some .suspended) :
    Gives level [⟨.next n, s, (s.next level n).1⟩] s (s.next level n).2 ∧ (s.next level n).2.Ordered := by
  obtain ⟨⟨e, he⟩, hothers⟩ := h.shown_of_suspended hr
  rw [next_of_index level hi hr]
  rcases Replay.next_of_shown level he with ⟨e', v, hnext, hshown, hcome⟩ | ⟨v, hnext, hidle, hcome⟩
  · rw [hnext]
    exact ⟨.single hi hr (fun j hne hj => absurd hj (hothers j hne)) (.inl hcome.symm) nofun,
      .of_shown hr hothers hshown⟩
  · rw [hnext]
    exact ⟨.single hi hr (fun j hne hj => absurd hj (hothers j hne)) (.inl hcome.symm) fun _ => rfl,
      .of_idle hr hothers hidle⟩

theorem next_finished (h : s.Ordered) {n : Int} (hi : s.index? n = some i) (hr : s.replays[i]? = some .finished) :
    Gives level [⟨.next n, s, (s.next level n).1⟩] s (s.next level n).2 ∧ (s.next level n).2.Ordered := by
  rw [next_of_index level hi hr]
  exact ⟨.single hi hr (fun _ _ _ => rfl) (.inl rfl) fun _ => rfl, h.finish hr nofun⟩

theorem close (h : s.Ordered) {n : Int} (hi : s.index? n = some i) (hr : s.replays[i]? = some r) :
    Gives level [⟨.close n, s, (s.answer level (.close n)).1⟩] s (s.answer level (.close n)).2 ∧
      (s.answer level (.close n)).2.Ordered := by
  rw [answer_close_of_index hi hr]
  cases r with
  | waiting | finished =>
    exact ⟨.single hi hr (fun _ _ _ => rfl) (.inr ⟨rfl, rfl, .inl ⟨n, rfl, hi⟩⟩) nofun, h.finish hr nofun⟩
  | suspended =>
    obtain ⟨-, hothers⟩ := h.shown_of_suspended hr
    exact ⟨.single hi hr (fun j hne hj => absurd hj (hothers j hne)) (.inr ⟨rfl, rfl, .inl ⟨n, rfl, hi⟩⟩) nofun,
      .of_idle hr hothers s.stepper.inFlight_abort⟩

/-- What one cue does to every replay. -/
theorem answer (h : s.Ordered) (c : Cue) :
    Gives level [⟨c, s, (s.answer level c).1⟩] s (s.answer level c).2 ∧ (s.answer level c).2.Ordered := by
  cases hi : s.index? c.number with
  | none =>
    rw [answer_of_none hi]
    exact ⟨.unanswered hi, h⟩
  | some i =>
    obtain ⟨r, hr⟩ := exists_replay hi
    cases c with
    | close n => exact h.close hi hr
    | next n =>
      cases r with
      | waiting moves => exact h.next_waiting hi hr
      | suspended => exact h.next_suspended hi hr
      | finished => exact h.next_finished hi hr

/-- What any cues do to every replay. -/
theorem play (level : Level) (h : s.Ordered) (cues : List Cue) :
    Gives level (s.play level cues).scenes s (s.play level cues).last ∧ (s.play level cues).last.Ordered := by
  induction cues generalizing s with
  | nil => exact ⟨.nil s, h⟩
  | cons c cues ih =>
    obtain ⟨hfirst, hnext⟩ := h.answer c
    obtain ⟨hlater, hlast⟩ := ih hnext
    exact ⟨hfirst.append hlater, hlast⟩

end Stage.Ordered

/-- Replays of the moves of a family keep apart that share one stepper. -/
structure KeepApart (level : Level) (family : List (List Move)) (p : Performance) : Prop where
  /-- At most one of them is suspended, which is so exactly if a walk is in progress. -/
  one : ∀ i j : Nat, p.last.replays[i]? = some .suspended → p.last.replays[j]? = some .suspended → i = j
  walking : p.last.stepper.inFlight = true ↔ .suspended ∈ p.last.replays
  /-- Each gives out the first events of the walk of its own moves. -/
  begins : ∀ i moves, family[i]? = some moves → p.given i <+: events level moves
  /-- It gives out all of them if it was asked until it had no more, and was neither closed nor refused. -/
  whole : ∀ i moves, family[i]? = some moves → (∃ c ∈ p.scenes, c.Exhausts i) →
    (∀ c ∈ p.scenes, ¬c.Closes i ∧ ¬c.Refuses i) → p.given i = events level moves
  /-- One that is to begin while another walks is refused. It never gives out anything, and the stepper, the others and
      what they are still to give out stay as they are. -/
  refused : ∀ n i moves, p.last.index? n = some i → p.last.replays[i]? = some (.waiting moves) →
    p.last.stepper.inFlight = true → ∃ s, p.last.next level n = (.error (.stepper .busy), s) ∧
      s.stepper = p.last.stepper ∧ (∀ j : Nat, j ≠ i → s.replays[j]? = p.last.replays[j]? ∧
        s.promised level j = p.last.promised level j) ∧ ∀ later, (s.play level later).given i = []

/-- Replays that share a stepper on which no walk is in progress keep apart, in whatever order they are asked to go on
    or closed. -/
theorem replays_keep_apart (level : Level) (family : List (List Move)) (w : Stepper) (hidle : w.inFlight = false)
    (cues : List Cue) :
    KeepApart level family (Stage.play level cues { stepper := w, replays := family.map .waiting }) := by
  let s : Stage := { stepper := w, replays := family.map .waiting }
  have hopened : s.Ordered := by
    refine .idle hidle fun j => ?_
    rw [List.getElem?_map]
    cases family[j]? with
    | none => exact nofun
    | some moves => exact nofun
  have hfirst : ∀ {i : Nat} {moves : List Move}, family[i]? = some moves → s.promised level i = events level moves := by
    intro i moves hi
    have hr : s.replays[i]? = some (.waiting moves) := by
      rw [List.getElem?_map, hi]
      rfl
    exact promised_of_getElem? hr
  obtain ⟨hgives, hlast⟩ := hopened.play level cues
  refine ⟨fun i j hi hj => ?_, hlast.inFlight_iff, fun i moves hi => ?_, fun i moves hi hexhausted hopen => ?_, ?_⟩
  · exact Decidable.byContradiction fun hne => (hlast.shown_of_suspended hi).2 j (Ne.symm hne) hj
  · rw [← hfirst hi]
    exact (List.prefix_append _ _).trans (hgives.begins i)
  · have hall := hgives.all i hopen
    rw [hgives.exhausted i hexhausted, List.append_nil, hfirst hi] at hall
    exact hall
  · intro n i moves hi hr hfly
    have hnext := next_of_index level hi hr
    rw [Replay.next_of_inFlight level moves hfly] at hnext
    refine ⟨_, hnext, rfl, fun j hj => ⟨?_, promised_set_of_ne hj fun _ => rfl⟩, fun later => ?_⟩
    · exact List.getElem?_set_ne (Ne.symm hj)
    · refine ((hlast.finish hr nofun).play level later).1.given_eq_nil ?_
      rw [Stage.promised, getElem?_set_self hr .finished]
      rfl

/-- Two replays in the lane after an earlier walk there. The second one is to begin while the first one walks. -/
def laneReplays : List (List Move) × Stepper := ([laneMoves, laneMoves], .resting { position := lane.door })

/-- Cues for two replays that take turns. -/
def laneCues : List Cue := [.next 0, .next 1, .next 0, .next 0, .next 1, .next 0, .next 0]

theorem lane_replays_keep_apart :
    laneReplays.2.inFlight = false ∧ KeepApart lane laneReplays.1
      (Stage.play lane laneCues { stepper := laneReplays.2, replays := laneReplays.1.map .waiting }) :=
  ⟨rfl, replays_keep_apart lane laneReplays.1 laneReplays.2 rfl laneCues⟩

/-- The first one gives out its whole walk and the second one nothing. -/
example :
    let p := Stage.play lane laneCues { stepper := laneReplays.2, replays := laneReplays.1.map .waiting }
    (p.given 0).map (·.kind) = [.moved, .collectedEnergy, .moved, .victory] ∧ p.given 1 = [] ∧
      p.last.replays = [.finished, .finished] := by decide +kernel

end GridWalk.Walk
