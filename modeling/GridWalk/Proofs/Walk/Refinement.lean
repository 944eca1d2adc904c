import GridWalk.Proofs.Walk.Draining

/-! The stepper refines the plain walk. As long as no place stops the walk, the stepper is ready in the
    state that the places so far tell, with the rest of the unit steps before it; from there it shows the
    rest of the plain walk's events. -/

namespace GridWalk.Walk
open Stepper Plain

section
variable (level : Level) (ds : List Direction)

/-- The state after `i` unit steps none of which stopped the walk. -/
def stateAfter (i : Nat) : State where
  position := place level ds i
  energized := 0 < energy level ds i
  energyCollected := energy level ds i
  stepsTaken := i

/-- The events that follow the first `i` unit steps. -/
def eventsAfter (i : Nat) : List Event :=
  (List.range' (i + 1) (stepsMade level ds - i)).flatMap (stepEvents level ds) ++ [finalEvent level ds]

/-- None of the first `i` unit steps stops the walk. -/
def Clear (i : Nat) : Prop := ∀ j, 1 ≤ j → j ≤ i → stops level (place level ds j) = false

end

variable {level : Level} {ds : List Direction} {i : Nat}

theorem Clear.succ (h : Clear level ds i) (hi : stops level (place level ds (i + 1)) = false) :
    Clear level ds (i + 1) := by
  intro j hj hle
  rcases Nat.le_succ_iff.mp hle with hle | rfl
  · exact h j hj hle
  · exact hi

/-! ### Where the walk stops -/

theorem Clear.firstStop?_eq (h : Clear level ds i) (hlt : i < ds.length)
    (hstop : stops level (place level ds (i + 1)) = true) : firstStop? level ds = some (i + 1) :=
  firstStop?_eq_some_iff.mpr ⟨hstop, ⟨Nat.le_add_left 1 i, hlt⟩, fun j hj hlt => h j hj (Nat.lt_succ_iff.mp hlt)⟩

/-- Steps that do not stop the walk are made. -/
theorem Clear.le_stepsMade (h : Clear level ds i) (hle : i ≤ ds.length) : i ≤ stepsMade level ds := by
  unfold stepsMade
  split
  · exact hle
  · rename_i k hk
    obtain ⟨hstop, ⟨hpos, -⟩, -⟩ := firstStop?_eq_some_iff.mp hk
    have hik : i < k := Nat.lt_of_not_le fun hki => by
      rw [h k hpos hki] at hstop
      cases hstop
    split <;> omega

theorem stepsMade_of_inside {k : Nat} (hk : firstStop? level ds = some k)
    (hin : level.contains (place level ds k) = true) : stepsMade level ds = k := by
  simp only [stepsMade, hk, hin, if_true]

theorem stepsMade_of_outside {k : Nat} (hk : firstStop? level ds = some k)
    (hout : level.contains (place level ds k) = false) : stepsMade level ds = k - 1 := by
  simp only [stepsMade, hk, hout, Bool.false_eq_true, if_false]

/-! ### The last event -/

theorem eventsAfter_of_made (h : stepsMade level ds = i) : eventsAfter level ds i = [finalEvent level ds] := by
  rw [eventsAfter, h, Nat.sub_self]
  rfl

theorem eventsAfter_of_lt (h : i < stepsMade level ds) :
    eventsAfter level ds i = stepEvents level ds (i + 1) ++ eventsAfter level ds (i + 1) := by
  have hsub : stepsMade level ds - i = (stepsMade level ds - (i + 1)) + 1 := by omega
  rw [eventsAfter, hsub, List.range'_succ, List.flatMap_cons, List.append_assoc]
  rfl

/-- The stepper finishes in the state and with the event of the plain walk. -/
theorem finish_stateAfter {o : Outcome} (hi : stepsMade level ds = i) (ho : outcome level ds = o) :
    finish (stateAfter level ds i) o (finalKind o) = (state level ds, finalEvent level ds) := by
  subst hi
  subst ho
  rfl

theorem finish_drained {o : Outcome} (hi : stepsMade level ds = i) (ho : outcome level ds = o) :
    ([(finish (stateAfter level ds i) o (finalKind o)).2],
      resting (finish (stateAfter level ds i) o (finalKind o)).1) =
      (eventsAfter level ds i, resting (state level ds)) := by
  rw [finish_stateAfter hi ho, eventsAfter_of_made hi]

/-! ### One unit step -/

/-- The state when the step after `i` others has been shown and the cell it enters is not yet evaluated. -/
def arriving (level : Level) (ds : List Direction) (i : Nat) : State :=
  { stateAfter level ds i with position := place level ds (i + 1), stepsTaken := i + 1 }

theorem arriving_eq (h : level.terrain? (place level ds (i + 1)) ≠ some .energy) :
    arriving level ds i = stateAfter level ds (i + 1) := by
  have henergy : energy level ds (i + 1) = energy level ds i := by
    rw [energy_succ, if_neg h, Nat.add_zero]
  rw [arriving, stateAfter, stateAfter, henergy]

theorem arriving_charged (h : level.terrain? (place level ds (i + 1)) = some .energy) :
    { arriving level ds i with energyCollected := (arriving level ds i).energyCollected + 1, energized := true } =
      stateAfter level ds (i + 1) := by
  have henergy : energy level ds (i + 1) = energy level ds i + 1 := by
    rw [energy_succ, if_pos h]
  rw [arriving, stateAfter, stateAfter, henergy, decide_eq_true (Nat.succ_pos _)]

theorem stepEvents_succ : stepEvents level ds (i + 1) = (arriving level ds i).event .moved none ::
    if level.terrain? (place level ds (i + 1)) = some .energy then
      [(stateAfter level ds (i + 1)).event .collectedEnergy none]
    else [] := rfl

theorem finalKind_ne_moved (o : Outcome) : finalKind o ≠ .moved := by
  cases o <;> decide

theorem isFinal_finalKind (o : Outcome) : (finalKind o).isFinal = true := by
  cases o <;> rfl

/-- A stepper that ends at the cell it enters, with the outcome of the plain walk, shows the last event. -/
theorem drain_stop {t : Terrain} {o : Outcome} {rest : List Move} (h : Clear level ds i) (hlt : i < ds.length)
    (ht : level.terrain? (place level ds (i + 1)) = some t) (hstop : [Terrain.void, .snake, .door].contains t = true)
    (ho : firstStop? level ds = some (i + 1) → outcome level ds = o) :
    ((arriving level ds i).event .moved none ::
        ((ending (arriving level ds i) o (finalKind o) rest (finalKind_ne_moved o)).drain level).1,
      ((ending (arriving level ds i) o (finalKind o) rest (finalKind_ne_moved o)).drain level).2) =
      (eventsAfter level ds i, resting (state level ds)) := by
  have hne : level.terrain? (place level ds (i + 1)) ≠ some .energy := by
    rw [ht]
    rintro ⟨⟩
    cases hstop
  have hfirst := h.firstStop?_eq hlt ((stops_of_terrain ht).trans hstop)
  have hmade := stepsMade_of_inside hfirst (Level.contains_of_terrain ht)
  rw [eventsAfter_of_lt (by omega), stepEvents_succ, if_neg hne, eventsAfter_of_made hmade,
    drain_ending _ (isFinal_finalKind o), arriving_eq hne, finish_stateAfter hmade (ho hfirst)]
  rfl

theorem outcome_door (hfirst : firstStop? level ds = some (i + 1))
    (ht : level.terrain? (place level ds (i + 1)) = some .door) :
    outcome level ds = if 0 < energy level ds i then .victory else .needsEnergy := by
  simp only [outcome, hfirst, ht, Nat.add_sub_cancel, energy_pos_iff]

/-- Moves that have run out end the walk. -/
theorem drain_end {moves : List Move} (hmoves : Move.strides moves = []) (hclear : Clear level ds ds.length) :
    (ready (stateAfter level ds ds.length) moves).drain level =
      (eventsAfter level ds ds.length, resting (state level ds)) := by
  have hfirst : firstStop? level ds = none := firstStop?_eq_none_iff.mpr hclear
  have hmade : stepsMade level ds = ds.length := by simp only [stepsMade, hfirst]
  have hout : outcome level ds = .running := by simp only [outcome, hfirst]
  exact (drain_exhausted (takeStep_eq_none hmoves)).trans (finish_drained hmade hout)

section
variable {moves rest : List Move} {d : Direction} (hclear : Clear level ds i) (hlt : i < ds.length)
  (htake : takeStep moves = some (d, rest)) (hplace : place level ds (i + 1) = place level ds i + d.step)
include hclear hlt htake hplace

/-- A unit step off the grid is not made and ends the walk. -/
theorem drain_off_grid (hout : level.contains (place level ds (i + 1)) = false) :
    (ready (stateAfter level ds i) moves).drain level = (eventsAfter level ds i, resting (state level ds)) := by
  have hfirst := hclear.firstStop?_eq hlt (stops_of_outside hout)
  have hmade : stepsMade level ds = i := stepsMade_of_outside hfirst hout
  have houtcome : outcome level ds = .outOfBounds := by
    simp only [outcome, hfirst, Level.terrain?_eq_none_iff.mpr hout]
  exact (drain_outside htake (hplace ▸ hout)).trans (finish_drained hmade houtcome)

/-- A unit step on the grid ends the walk with the rest of the plain walk's events, or it is shown with its
    events and the stepper is ready for the next one. -/
theorem drain_on_grid (hin : level.contains (place level ds (i + 1)) = true) :
    (ready (stateAfter level ds i) moves).drain level = (eventsAfter level ds i, resting (state level ds)) ∨
      Clear level ds (i + 1) ∧ (ready (stateAfter level ds i) moves).drain level =
        (stepEvents level ds (i + 1) ++ ((ready (stateAfter level ds (i + 1)) rest).drain level).1,
          ((ready (stateAfter level ds (i + 1)) rest).drain level).2) := by
  obtain ⟨t, ht⟩ := Option.isSome_iff_exists.mp (Level.terrain?_isSome_iff.mpr hin)
  have hmoved : (ready (stateAfter level ds i) moves).drain level =
      ((arriving level ds i).event .moved none :: ((enter level (arriving level ds i) rest).drain level).1,
        ((enter level (arriving level ds i) rest).drain level).2) :=
    drain_moved htake (hplace ▸ hin) (by rw [arriving, hplace]; rfl)
  have hcell : level.terrain? (arriving level ds i).position = some t := ht
  rw [hmoved, enter, hcell]
  cases t with
  | void => exact .inl (drain_stop hclear hlt ht rfl fun hfirst => by simp only [outcome, hfirst, ht])
  | snake => exact .inl (drain_stop hclear hlt ht rfl fun hfirst => by simp only [outcome, hfirst, ht])
  | door =>
    have henergized : (arriving level ds i).energized = decide (0 < energy level ds i) := rfl
    simp only [henergized, decide_eq_true_eq]
    split
    · rename_i hcharged
      exact .inl (drain_stop hclear hlt ht rfl fun hfirst => by rw [outcome_door hfirst ht, if_pos hcharged])
    · rename_i hempty
      exact .inl (drain_stop hclear hlt ht rfl fun hfirst => by rw [outcome_door hfirst ht, if_neg hempty])
  | safe =>
    have hne : level.terrain? (place level ds (i + 1)) ≠ some .energy := by simp [ht]
    refine .inr ⟨hclear.succ (stops_of_terrain ht), ?_⟩
    rw [stepEvents_succ, if_neg hne, arriving_eq hne]
    rfl
  | energy =>
    refine .inr ⟨hclear.succ (stops_of_terrain ht), ?_⟩
    simp only [arriving_charged ht]
    rw [drain_queued _ rfl, stepEvents_succ, if_pos ht]
    rfl

end

/-! ### Whole walks -/

/-- From the state after some unit steps the stepper shows what the plain walk has after them. -/
theorem drain_stateAfter {moves : List Move} (hmoves : Move.strides moves = ds.drop i) (hle : i ≤ ds.length)
    (hclear : Clear level ds i) : (ready (stateAfter level ds i) moves).drain level =
      (eventsAfter level ds i, resting (state level ds)) := by
  -- By induction on the unit steps that remain: each is the last, or leaves the stepper ready one further.
  generalize hrem : ds.drop i = remaining at hmoves
  induction remaining generalizing i moves with
  | nil =>
    obtain rfl : i = ds.length := Nat.le_antisymm hle (List.drop_eq_nil_iff.mp hrem)
    exact drain_end hmoves hclear
  | cons d remaining ih =>
    obtain ⟨rest, htake, hrest⟩ := takeStep_eq_some hmoves
    have hlt : i < ds.length := by
      have := congrArg List.length hrem
      rw [List.length_drop, List.length_cons] at this
      omega
    have hdrop : ds.drop (i + 1) = remaining := by
      rw [← List.tail_drop, hrem, List.tail_cons]
    have hplace : place level ds (i + 1) = place level ds i + d.step := place_succ hrem
    cases hin : level.contains (place level ds (i + 1)) with
    | false => exact drain_off_grid hclear hlt htake hplace hin
    | true =>
      rcases drain_on_grid hclear hlt htake hplace hin with hends | ⟨hnext, hgoes⟩
      · exact hends
      · rw [hgoes, ih hlt hnext hdrop hrest, eventsAfter_of_lt (hnext.le_stepsMade hlt)]

theorem whole_eq (level : Level) (moves : List Move) : whole level moves =
    (Plain.events level (Move.strides moves), some (state level (Move.strides moves))) := by
  have hdrain : (ready (stateAfter level (Move.strides moves) 0) moves).drain level =
      (Plain.events level (Move.strides moves), resting (state level (Move.strides moves))) :=
    drain_stateAfter rfl (Nat.zero_le _) fun j hj hle => by omega
  have hstart : Stepper.untouched.start level moves =
      .ok (ready (stateAfter level (Move.strides moves) 0) moves) := rfl
  simp only [whole, hstart, hdrain]
  rfl

theorem events_eq (level : Level) (moves : List Move) : events level moves = Plain.events level (Move.strides moves) := by
  rw [events, whole_eq]

theorem simulate_eq (level : Level) (moves : List Move) :
    simulate level moves = some (state level (Move.strides moves)) := by
  rw [simulate, whole_eq]

/-- A walk shows the events of the plain walk and ends in its state: it stops at the first place off the
    grid or with a void, a snake or a door, and where there is none it makes all its steps. -/
theorem walk_refines_plain (level : Level) (moves : List Move) :
    events level moves = Plain.events level (Move.strides moves) ∧
      simulate level moves = some (Plain.state level (Move.strides moves)) := by
  rw [events, simulate, whole_eq]
  exact ⟨rfl, rfl⟩

end GridWalk.Walk
