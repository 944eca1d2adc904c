import GridWalk.Proofs.Walk.Delivery
import Mathlib.Data.List.Basic

/-! Walks whose moves are extended or grouped anew. What a unit step shows is decided by the steps up to it, so a walk
    that the level has ended is not changed by further moves, and one whose moves ran out goes on with them from the
    state that it came to. Only the unit steps of the moves count, however many of them stand in one move. -/

namespace GridWalk.Walk
open Stepper

namespace Plain
variable {level : Level} {ds es : List Direction} {i k : Nat}

/-! ### Steps up to a place -/

theorem energy_append (h : i ≤ ds.length) : energy level (ds ++ es) i = energy level ds i := by
  rw [energy, energy]
  refine List.countP_congr fun j hj => ?_
  have hji : j ≤ i := Nat.lt_one_add_iff.mp (List.mem_range'_1.mp hj).2
  rw [place_append (Nat.le_trans hji h)]

theorem stepEvents_append (h : i ≤ ds.length) : stepEvents level (ds ++ es) i = stepEvents level ds i := by
  rw [stepEvents, stepEvents, place_append h, energy_append h, energy_append (Nat.le_trans (Nat.sub_le i 1) h)]

/-- The events of the first unit steps, as long as these are made. -/
theorem flatMap_stepEvents_append {n : Nat} (h : n ≤ ds.length) :
    (List.range' 1 n).flatMap (stepEvents level (ds ++ es)) = (List.range' 1 n).flatMap (stepEvents level ds) := by
  refine List.flatMap_congr fun j hj => ?_
  exact stepEvents_append (Nat.le_trans (Nat.lt_one_add_iff.mp (List.mem_range'_1.mp hj).2) h)

/-! ### Walks that stop -/

theorem stepsMade_le (level : Level) (ds : List Direction) : stepsMade level ds ≤ ds.length := by
  rw [stepsMade]
  split
  · exact Nat.le_refl _
  · rename_i k hk
    obtain ⟨-, ⟨-, hle⟩, -⟩ := firstStop?_eq_some_iff.mp hk
    split
    · exact hle
    · exact Nat.le_trans (Nat.sub_le k 1) hle

theorem firstStop?_append (h : firstStop? level ds = some k) : firstStop? level (ds ++ es) = some k := by
  obtain ⟨hstop, ⟨hpos, hle⟩, hclear⟩ := firstStop?_eq_some_iff.mp h
  refine firstStop?_eq_some_iff.mpr ⟨?_, ⟨hpos, ?_⟩, fun i hi hlt => ?_⟩
  · rw [place_append hle]
    exact hstop
  · rw [List.length_append]
    exact Nat.le_add_right_of_le hle
  · rw [place_append (Nat.le_trans (Nat.le_of_lt hlt) hle)]
    exact hclear i hi hlt

section
variable (h : firstStop? level ds ≠ none)
include h

theorem stepsMade_append : stepsMade level (ds ++ es) = stepsMade level ds := by
  obtain ⟨k, hk⟩ := Option.ne_none_iff_exists'.mp h
  obtain ⟨-, ⟨-, hle⟩, -⟩ := firstStop?_eq_some_iff.mp hk
  simp only [stepsMade, hk, firstStop?_append hk, place_append hle]

theorem outcome_append : outcome level (ds ++ es) = outcome level ds := by
  obtain ⟨k, hk⟩ := Option.ne_none_iff_exists'.mp h
  obtain ⟨-, ⟨-, hle⟩, -⟩ := firstStop?_eq_some_iff.mp hk
  have hcharged : 0 < energy level (ds ++ es) (k - 1) ↔ 0 < energy level ds (k - 1) := by
    rw [energy_append (Nat.le_trans (Nat.sub_le k 1) hle)]
  rw [energy_pos_iff, energy_pos_iff] at hcharged
  simp only [outcome, hk, firstStop?_append hk, place_append hle, hcharged]

theorem state_append : state level (ds ++ es) = state level ds := by
  rw [state, state, stepsMade_append h, outcome_append h, place_append (stepsMade_le level ds),
    energy_append (stepsMade_le level ds)]

theorem events_append : events level (ds ++ es) = events level ds := by
  rw [events, events, finalEvent, finalEvent, stepsMade_append h, outcome_append h, place_append (stepsMade_le level ds),
    energy_append (stepsMade_le level ds), flatMap_stepEvents_append (stepsMade_le level ds)]

end

/-! ### Last events -/

theorem kind_finalEvent_iff : (finalEvent level ds).kind = .exhausted ↔ firstStop? level ds = none := by
  constructor
  · intro hkind
    by_contra hstop
    exact finalKind_ne_exhausted (outcome_ne_running hstop) hkind
  · intro hnone
    simp only [finalEvent, outcome, hnone]
    rfl

theorem isFinal_of_mem_stepEvents {e : Event} (h : e ∈ stepEvents level ds i) : e.isFinal = false := by
  rw [stepEvents] at h
  rcases List.mem_cons.mp h with rfl | h
  · rfl
  · split at h
    · obtain rfl := List.mem_singleton.mp h
      rfl
    · cases h

end Plain

open Plain

variable {level : Level} {ds es : List Direction} {moves : List Move}

/-! ### Walks that go on -/

theorem stateAfter_append {i : Nat} (h : i ≤ ds.length) : stateAfter level (ds ++ es) i = stateAfter level ds i := by
  rw [stateAfter, stateAfter, place_append h, energy_append h]

section
variable (h : firstStop? level ds = none)
include h

theorem clear_append : Clear level (ds ++ es) ds.length := by
  intro j hj hle
  rw [place_append hle]
  exact firstStop?_eq_none_iff.mp h j hj hle

/-- From the state that unhindered steps lead to, a stepper shows what follows them in the longer walk. -/
theorem drain_state (hmoves : Move.strides moves = es) : (ready (state level ds) moves).drain level =
    (eventsAfter level (ds ++ es) ds.length, resting (state level (ds ++ es))) := by
  have hstart : state level ds = stateAfter level (ds ++ es) ds.length := by
    rw [stateAfter_append (Nat.le_refl _)]
    simp only [state, stepsMade, outcome, h]
    rfl
  rw [hstart]
  refine drain_stateAfter ?_ ?_ (clear_append h)
  · rw [hmoves, List.drop_left]
  · simp

theorem events_append_of_clear (es : List Direction) : Plain.events level (ds ++ es) =
    (List.range' 1 (stepsMade level ds)).flatMap (stepEvents level ds) ++ eventsAfter level (ds ++ es) ds.length := by
  have hall : stepsMade level ds = ds.length := by simp only [stepsMade, h]
  have hmade : ds.length ≤ stepsMade level (ds ++ es) := (clear_append h).le_stepsMade (by simp)
  have hsplit : List.range' 1 (stepsMade level (ds ++ es)) =
      List.range' 1 ds.length ++ List.range' (ds.length + 1) (stepsMade level (ds ++ es) - ds.length) := by
    rw [Nat.add_comm ds.length 1, List.range'_append_1, Nat.add_sub_cancel' hmade]
  rw [Plain.events, hsplit, List.flatMap_append, flatMap_stepEvents_append (Nat.le_refl _), List.append_assoc, hall,
    eventsAfter]

end

/-- Further moves leave a walk that the level has ended as it is, and a walk whose moves ran out goes on with them from
    the state that it came to. Moves with the same unit steps walk alike. -/
theorem walk_extended_or_regrouped (level : Level) (m₁ m₂ : List Move) :
    (∃ before last, events level m₁ = before ++ [last] ∧ last.isFinal = true ∧ (∀ e ∈ before, e.isFinal = false) ∧
      (last.kind ≠ .exhausted →
        events level (m₁ ++ m₂) = events level m₁ ∧ simulate level (m₁ ++ m₂) = simulate level m₁) ∧
      (last.kind = .exhausted → before <+: events level (m₁ ++ m₂) ∧ ∃ s, simulate level m₁ = some s ∧
        events level (m₁ ++ m₂) = before ++ ((ready s m₂).drain level).1 ∧
        simulate level (m₁ ++ m₂) = ((ready s m₂).drain level).2.state?)) ∧
    (Move.strides m₁ = Move.strides m₂ →
      events level m₁ = events level m₂ ∧ simulate level m₁ = simulate level m₂) := by
  have hstrides : Move.strides (m₁ ++ m₂) = Move.strides m₁ ++ Move.strides m₂ := List.flatMap_append
  simp only [events_eq, simulate_eq, hstrides]
  refine ⟨⟨_, _, rfl, isFinal_finalKind _, ?_, ?_, ?_⟩, fun h => by rw [h]; exact ⟨rfl, rfl⟩⟩
  · intro e he
    obtain ⟨i, -, he⟩ := List.mem_flatMap.mp he
    exact isFinal_of_mem_stepEvents he
  · intro hended
    have hstop := mt kind_finalEvent_iff.mpr hended
    rw [events_append hstop, state_append hstop]
    exact ⟨rfl, rfl⟩
  · intro hexhausted
    have hclear := kind_finalEvent_iff.mp hexhausted
    have hevents := events_append_of_clear hclear (Move.strides m₂)
    refine ⟨⟨_, hevents.symm⟩, _, rfl, ?_, ?_⟩
    · rw [drain_state hclear rfl]
      exact hevents
    · rw [drain_state hclear rfl]
      rfl

/-- Two single steps have the unit steps of the move along the lane, whose first half ends short of the door. -/
theorem lane_extended_or_regrouped :
    let half : List Move := [Move.unit .right]
    (∃ before last, events lane laneMoves = before ++ [last] ∧ last.kind = .victory ∧
      events lane (laneMoves ++ half) = events lane laneMoves ∧
      simulate lane (laneMoves ++ half) = simulate lane laneMoves) ∧
    (∃ before last, events lane half = before ++ [last] ∧ last.kind = .exhausted ∧
      before <+: events lane (half ++ half) ∧ ∃ s, simulate lane half = some s ∧
        events lane (half ++ half) = before ++ ((ready s half).drain lane).1 ∧
        simulate lane (half ++ half) = ((ready s half).drain lane).2.state?) ∧
    Move.strides laneMoves = Move.strides (half ++ half) ∧ events lane laneMoves = events lane (half ++ half) ∧
      simulate lane laneMoves = simulate lane (half ++ half) := by
  intro half
  have hlast : ∀ {moves before last}, events lane moves = before ++ [last] →
      last = finalEvent lane (Move.strides moves) := by
    intro moves before last h
    rw [events_eq, Plain.events] at h
    exact List.singleton_inj.mp (List.append_inj' h rfl).2.symm
  obtain ⟨before, last, hwon, -, -, hkept, -⟩ := (walk_extended_or_regrouped lane laneMoves half).1
  obtain ⟨before', last', hran, -, -, -, hgoesOn⟩ := (walk_extended_or_regrouped lane half half).1
  have hvictory : last.kind = .victory := by
    rw [hlast hwon]
    decide
  have hexhausted : last'.kind = .exhausted := by
    rw [hlast hran]
    decide
  have hsame : Move.strides laneMoves = Move.strides (half ++ half) := by decide
  refine ⟨⟨before, last, hwon, hvictory, hkept ?_⟩, ⟨before', last', hran, hexhausted, hgoesOn hexhausted⟩, hsame, ?_⟩
  · rw [hvictory]
    decide
  · exact (walk_extended_or_regrouped lane laneMoves (half ++ half)).2 hsame

end GridWalk.Walk
