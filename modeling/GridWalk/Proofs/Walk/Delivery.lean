import GridWalk.Proofs.Walk.Mirroring
import GridWalk.Proofs.Walk.Refinement
import GridWalk.Proofs.Walk.Rounds

/-! The events of a walk come in order, whatever a machine is called for meanwhile. At every moment the events
    that are still outstanding, the shown one first, are what is left of the events of the walk: a step takes
    the next one out of those to come, an acknowledgement takes it out of those outstanding, and a call that
    is refused takes nothing. -/

namespace GridWalk.Walk

/-- A call with the registers that it found and what came of it. -/
structure Turn where
  call : Call
  before : Machine
  result : EStateM.Result Machine.Fault Machine (Option Event)

namespace Turn

/-- The event that was answered. -/
def shown? (t : Turn) : Option Event :=
  match t.result with
  | .ok answer _ => answer
  | .error _ _ => none

/-- The event that was acknowledged. -/
def acknowledged? (t : Turn) : Option Event :=
  match t.call, t.result with
  | .acknowledge, .ok _ _ => t.before.pending
  | _, _ => none

end Turn

/-- Turns one after the other, and the registers after them. -/
structure Run where
  turns : List Turn
  last : Machine

namespace Run

/-- The events that were shown. -/
def shown (r : Run) : List Event := r.turns.filterMap Turn.shown?

/-- The events that were acknowledged. -/
def acknowledged (r : Run) : List Event := r.turns.filterMap Turn.acknowledged?

/-- The calls that were made. -/
def calls (r : Run) : List Call := r.turns.map Turn.call

end Run

/-- The run of calls that are made until the walk in progress is over. -/
def Machine.run (level : Level) : List Call → Machine → Run
  | [], m => ⟨[], m⟩
  | c :: cs, m =>
    if m.inFlight then
      let later := run level cs (m.afterCall level c)
      ⟨⟨c, m, Machine.call level c m⟩ :: later.turns, later.last⟩
    else ⟨[], m⟩

namespace Stepper

section
variable (level : Level) (w : Stepper)

/-- The stepper when the event that it shows is acknowledged. -/
def settled : Stepper :=
  match w.acknowledge level with
  | .ok v => v
  | .error _ => w

/-- The events that are not yet shown. -/
def toCome : List Event := ((w.settled level).drain level).1

/-- The stepper when all events are shown and acknowledged. -/
def finale : Stepper := ((w.settled level).drain level).2

/-- The events that are not yet acknowledged. -/
def outstanding : List Event := w.shownEvent?.toList ++ w.toCome level

end

variable {level : Level} {w v : Stepper} {e : Event}

theorem settled_of_ok (h : w.acknowledge level = .ok v) : w.settled level = v := by rw [settled, h]

theorem settled_of_not_shown (h : w.shownEvent? = none) : w.settled level = w := by
  cases w with
  | untouched | resting | ready | queued => rfl
  | shown => cases h

/-! ### What a call takes -/

theorem toCome_of_acknowledge (h : w.acknowledge level = .ok v) :
    w.toCome level = v.toCome level ∧ w.finale level = v.finale level := by
  have hsettled : w.settled level = v.settled level :=
    (settled_of_ok h).trans (settled_of_not_shown (shownEvent?_of_acknowledge h).2).symm
  rw [toCome, toCome, finale, finale, hsettled]
  exact ⟨rfl, rfl⟩

theorem toCome_of_step (h : w.step level = .ok (e, v)) :
    w.toCome level = e :: v.toCome level ∧ w.finale level = v.finale level := by
  obtain ⟨u, hu, hround⟩ := round_of_step h
  rw [toCome, toCome, finale, finale, settled_of_not_shown (shownEvent?_of_step h).1, settled_of_ok hu,
    drain_of_ok hround]
  exact ⟨rfl, rfl⟩

/-- A walk that is over has no event outstanding and has come to its end. -/
theorem outstanding_of_idle (level : Level) (h : w.inFlight = false) : w.outstanding level = [] ∧ w.finale level = w := by
  have hnone : w.shownEvent? = none := by
    cases w with
    | untouched | resting => rfl
    | ready | queued | shown => cases h
  rw [outstanding, toCome, finale, settled_of_not_shown hnone, hnone, drain_of_idle h]
  exact ⟨rfl, rfl⟩

/-- A walk in progress has an event outstanding. -/
theorem outstanding_ne_nil (h : w.inFlight = true) : w.outstanding level ≠ [] := by
  cases hshown : w.shownEvent? with
  | some e =>
    rw [outstanding, hshown]
    exact List.cons_ne_nil _ _
  | none =>
    obtain ⟨e, v, hstep⟩ := exists_step level h hshown
    rw [outstanding, hshown, (toCome_of_step hstep).1]
    exact List.cons_ne_nil _ _

theorem outstanding_eq_nil_iff (level : Level) : w.outstanding level = [] ↔ w.inFlight = false := by
  constructor
  · intro hnil
    exact Bool.eq_false_iff.mpr fun hfly => outstanding_ne_nil hfly hnil
  · intro hidle
    exact (outstanding_of_idle level hidle).1

end Stepper

open Stepper

variable {level : Level} {w : Stepper} {m m' : Machine}

theorem Mirrors.pending_eq (h : Mirrors w m) : m.pending = w.shownEvent? := by cases h <;> rfl

/-! ### Turns -/

/-- What turns take of a walk: its events are those that they show or acknowledge and those that they leave,
    it comes to the same end, and a turn that fails is refused and leaves the registers as they were. -/
structure Takes (level : Level) (turns : List Turn) (w v : Stepper) : Prop where
  toCome : turns.filterMap Turn.shown? ++ v.toCome level = w.toCome level
  outstanding : turns.filterMap Turn.acknowledged? ++ v.outstanding level = w.outstanding level
  finale : v.finale level = w.finale level
  refused : ∀ t ∈ turns, ∀ fault m', t.result = .error fault m' → m' = t.before ∧ ∃ e, fault = .refused e

namespace Takes
variable {ts us : List Turn} {u v : Stepper}

theorem nil (w : Stepper) : Takes level [] w w := ⟨rfl, rfl, rfl, fun _ ht => absurd ht List.not_mem_nil⟩

theorem append (h : Takes level ts w v) (h' : Takes level us v u) : Takes level (ts ++ us) w u where
  toCome := by rw [List.filterMap_append, List.append_assoc, h'.toCome, h.toCome]
  outstanding := by rw [List.filterMap_append, List.append_assoc, h'.outstanding, h.outstanding]
  finale := h'.finale.trans h.finale
  refused := by
    intro t ht
    rcases List.mem_append.mp ht with ht | ht
    · exact h.refused t ht
    · exact h'.refused t ht

end Takes

/-- A call on a walk in progress that does not break it off. -/
theorem Mirrors.takes (hm : Mirrors w m) (hs : w.Sound level) (hfly : w.inFlight = true) {c : Call}
    (hc : c ≠ .abort) : Takes level [⟨c, m, Machine.call level c m⟩] w (w.afterCall level c) := by
  have hagrees := hm.call hs c
  rw [Stepper.afterCall]
  generalize hcall : w.call level c = result at hagrees
  generalize Machine.call level c m = result' at hagrees
  cases hagrees with
  | refused e =>
    refine ⟨rfl, ?_, rfl, ?_⟩
    · cases c <;> rfl
    · intro t ht
      obtain rfl := List.mem_singleton.mp ht
      rintro _ _ ⟨⟩
      exact ⟨rfl, e, rfl⟩
  | @ok a v m' hm' =>
    have hanswered : ∀ t ∈ [Turn.mk c m (.ok a m')], ∀ fault m', t.result = .error fault m' →
        m' = t.before ∧ ∃ e, fault = .refused e := by
      intro t ht
      obtain rfl := List.mem_singleton.mp ht
      rintro _ _ ⟨⟩
    rcases call_eq_ok hcall with ⟨moves, rfl, -, hstart⟩ | ⟨e, rfl, rfl, hstep⟩ | ⟨rfl, rfl, hack⟩ | ⟨rfl, -, -⟩
    · rw [Stepper.start, hfly] at hstart
      cases hstart
    · obtain ⟨hnone, hshown⟩ := shownEvent?_of_step hstep
      obtain ⟨hcome, hfinale⟩ := toCome_of_step hstep
      refine ⟨hcome.symm, ?_, hfinale.symm, hanswered⟩
      rw [outstanding, outstanding, hnone, hshown, hcome]
      rfl
    · obtain ⟨⟨e, he⟩, hnone⟩ := shownEvent?_of_acknowledge hack
      obtain ⟨hcome, hfinale⟩ := toCome_of_acknowledge hack
      refine ⟨hcome.symm, ?_, hfinale.symm, hanswered⟩
      have hpending : [Turn.mk .acknowledge m (.ok none m')].filterMap Turn.acknowledged? = [e] := by
        have : m.pending = some e := hm.pending_eq.trans he
        simp only [List.filterMap_cons, Turn.acknowledged?, this, List.filterMap_nil]
      rw [hpending, outstanding, outstanding, he, hnone, hcome]
      rfl
    · exact absurd rfl hc

/-- The run of a walk in progress, with the stepper that is called for the same. -/
theorem Mirrors.run (hm : Mirrors w m) (hs : w.Sound level) {calls : List Call} (hcalls : ∀ c ∈ calls, c ≠ .abort) :
    let run := m.run level calls
    let v := run.calls.foldl (Stepper.afterCall level) w
    Mirrors v run.last ∧ Takes level run.turns w v := by
  -- By induction on the calls; a call that follows the end of the walk is not made.
  induction calls generalizing w m with
  | nil => exact ⟨hm, .nil w⟩
  | cons c cs ih =>
    rw [Machine.run]
    by_cases hfly : m.inFlight = true
    · rw [if_pos hfly]
      have htakes := hm.takes hs (hm.inFlight_eq ▸ hfly) (hcalls c List.mem_cons_self)
      obtain ⟨hlast, hlater⟩ :=
        ih (hm.afterCall hs c) (hs.afterCall c) fun c' hc' => hcalls c' (List.mem_cons_of_mem _ hc')
      exact ⟨hlast, htakes.append hlater⟩
    · rw [if_neg hfly]
      exact ⟨hm, .nil w⟩

/-! ### Walks -/

theorem Machine.start_eq_ok {moves : List Move} {u : Unit} (h : Machine.start level moves m = .ok u m') :
    m' = { state := some { position := level.start }, strides := Move.strides moves, inFlight := true } := by
  rcases m with ⟨state, strides, queue, pending, inFlight⟩
  cases inFlight with
  | false =>
    cases h
    rfl
  | true => cases h

/-- A walk that was begun shows its events in order, each one once, whatever is called for until it is over:
    what was shown is always a first part of the events of the walk, and a call that fails is refused and
    leaves the registers as they are. The walk is over exactly when all its events are acknowledged, and then
    its state is what comes of the walk. -/
theorem Machine.run_shows_events (level : Level) (moves : List Move) (m m' : Machine) (u : Unit)
    (hstart : Machine.start level moves m = .ok u m') (calls : List Call) (hcalls : ∀ c ∈ calls, c ≠ .abort) :
    let run := m'.run level calls
    run.shown <+: events level moves ∧
      (∀ t ∈ run.turns, ∀ fault m'', t.result = .error fault m'' → m'' = t.before ∧ ∃ e, fault = .refused e) ∧
      (run.last.inFlight = false ↔ run.acknowledged = events level moves) ∧
      (run.last.inFlight = false → run.last.state = simulate level moves) ∧
      Mirrors (run.calls.foldl (Stepper.afterCall level) (.ready { position := level.start } moves)) run.last := by
  obtain rfl := Machine.start_eq_ok hstart
  have hready : (Stepper.ready { position := level.start } moves).Sound level :=
    sound_ready (.initial level) rfl
  obtain ⟨hlast, htakes⟩ := (Mirrors.ready { position := level.start } moves).run hready hcalls
  generalize Machine.run level calls _ = run at hlast htakes ⊢
  have hcome : run.shown ++ _ = events level moves := htakes.toCome
  have hout : run.acknowledged ++ _ = events level moves := htakes.outstanding
  refine ⟨⟨_, hcome⟩, htakes.refused, ?_, ?_, hlast⟩
  · rw [hlast.inFlight_eq, ← outstanding_eq_nil_iff level, ← hout, List.self_eq_append_right]
  · intro hidle
    have hend := (outstanding_of_idle level (hlast.inFlight_eq.symm.trans hidle)).2
    rw [hlast.state_eq, ← hend, htakes.finale]
    rfl

/-- A lane from the start over an energy cell to the door. -/
def lane : Level where
  number := 1
  grid := [[{ position := ⟨0, 0⟩ }, { position := ⟨1, 0⟩, terrain := .energy },
    { position := ⟨2, 0⟩, terrain := .door }]]
  start := ⟨0, 0⟩
  door := ⟨2, 0⟩
  energy := [⟨1, 0⟩]
  width_pos := by decide
  rectangular := by decide
  start_mem := by decide
  door_terrain := by decide
  energy_terrain := by decide

/-- Two steps along the lane. -/
def laneMoves : List Move := [⟨.right, 2, Nat.two_pos⟩]

/-- Calls some of which come at the wrong time. -/
def hastyCalls : List Call :=
  [.acknowledge, .step, .step, .start [], .acknowledge, .step, .acknowledge, .acknowledge, .step, .acknowledge,
    .step, .start [], .acknowledge]

theorem lane_run_shows_events :
    let begun : Machine :=
      { state := some { position := lane.start }, strides := Move.strides laneMoves, inFlight := true }
    let run := begun.run lane hastyCalls
    Machine.start lane laneMoves {} = .ok () begun ∧ (∀ c ∈ hastyCalls, c ≠ .abort) ∧
      run.shown <+: events lane laneMoves ∧
      (∀ t ∈ run.turns, ∀ fault m'', t.result = .error fault m'' → m'' = t.before ∧ ∃ e, fault = .refused e) ∧
      (run.last.inFlight = false ↔ run.acknowledged = events lane laneMoves) ∧
      (run.last.inFlight = false → run.last.state = simulate lane laneMoves) ∧
      Mirrors (run.calls.foldl (Stepper.afterCall lane) (.ready { position := lane.start } laneMoves)) run.last :=
  ⟨rfl, by decide, Machine.run_shows_events lane laneMoves {} _ () rfl hastyCalls (by decide)⟩

end GridWalk.Walk
