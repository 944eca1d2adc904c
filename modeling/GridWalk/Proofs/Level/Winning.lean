import GridWalk.Proofs.Level.Generated
import GridWalk.Proofs.Walk.Refinement
import Mathlib.Logic.Relation

/-! Levels that can be won. A walk wins exactly if it goes over safe and energy cells only, meets an energy cell and then
    comes to the door; so a level can be won if its cells connect the start with an energy cell and that cell with a
    neighbour of the door. Obstacles drop wherever a cell is free, so a generated level need not be of that kind. -/

namespace GridWalk

namespace Level

/-- Some moves walk to victory. -/
def Winnable (l : Level) : Prop := ∃ moves s, Walk.simulate l moves = some s ∧ s.outcome = .victory

/-- A walk goes on at safe and energy cells. -/
def IsOpen (l : Level) (p : Position) : Prop := l.terrain? p = some .safe ∨ l.terrain? p = some .energy

/-- A unit step leads to a cell where a walk goes on. -/
def Opens (l : Level) (p q : Position) : Prop := ∃ d : Direction, q = p + d.step ∧ l.IsOpen q

end Level

namespace Walk.Plain
variable {level : Level} {ds : List Direction} {p : Position}

theorem stops_eq_false_iff : stops level p = false ↔ level.IsOpen p := by
  cases ht : level.terrain? p with
  | none =>
    rw [stops_of_outside (Level.terrain?_eq_none_iff.mp ht), Level.IsOpen, ht]
    simp
  | some t =>
    rw [stops_of_terrain ht, Level.IsOpen, ht]
    cases t <;> simp

/-- A walk wins exactly if it comes to a door over cells where it goes on, one of which is an energy cell. -/
theorem outcome_eq_victory_iff : outcome level ds = .victory ↔
    ∃ k, k < ds.length ∧ level.terrain? (place level ds (k + 1)) = some .door ∧
      (∀ i, 1 ≤ i → i ≤ k → level.IsOpen (place level ds i)) ∧
      ∃ i, 1 ≤ i ∧ i ≤ k ∧ level.terrain? (place level ds i) = some .energy := by
  constructor
  · intro h
    cases hfirst : firstStop? level ds with
    | none =>
      rw [outcome, hfirst] at h
      cases h
    | some stop =>
      obtain ⟨-, ⟨hpos, hle⟩, hclear⟩ := firstStop?_eq_some_iff.mp hfirst
      obtain ⟨k, rfl⟩ := Nat.exists_eq_add_of_le' hpos
      have hdoor : level.terrain? (place level ds (k + 1)) = some .door := by
        simp only [outcome, hfirst] at h
        split at h <;> first | assumption | cases h
      have henergy : 0 < energy level ds k := by
        rw [outcome_door hfirst hdoor] at h
        by_contra hnot
        rw [if_neg hnot] at h
        cases h
      rw [energy_pos_iff, List.any_eq_true] at henergy
      obtain ⟨i, hi, hcharged⟩ := henergy
      obtain ⟨hone, hlt⟩ := List.mem_range'_1.mp hi
      exact ⟨k, hle, hdoor, fun i hi hik => stops_eq_false_iff.mp (hclear i hi (Nat.lt_succ_of_le hik)),
        i, hone, by omega, of_decide_eq_true hcharged⟩
  · rintro ⟨k, hlt, hdoor, hopen, i, hone, hik, hcharged⟩
    have hstops : stops level (place level ds (k + 1)) = true := by
      rw [stops_of_terrain hdoor]
      rfl
    have hfirst : firstStop? level ds = some (k + 1) := firstStop?_eq_some_iff.mpr ⟨hstops, ⟨Nat.succ_pos k, hlt⟩,
      fun i hi hik => stops_eq_false_iff.mpr (hopen i hi (Nat.le_of_lt_succ hik))⟩
    have henergy : 0 < energy level ds k := by
      rw [energy_pos_iff, List.any_eq_true]
      exact ⟨i, List.mem_range'_1.mpr ⟨hone, by omega⟩, decide_eq_true hcharged⟩
    rw [outcome_door hfirst hdoor, if_pos henergy]

/-! ### Ways over open cells -/

/-- The places of a walk are a way as far as they are open. -/
theorem way_of_places {i j : Nat} (hij : i ≤ j) (hj : j ≤ ds.length)
    (hopen : ∀ n, i < n → n ≤ j → level.IsOpen (place level ds n)) :
    Relation.ReflTransGen level.Opens (place level ds i) (place level ds j) := by
  induction j, hij using Nat.le_induction with
  | base => exact .refl
  | succ j hij ih =>
    obtain ⟨d, hd⟩ : ∃ d, ds.drop j = d :: ds.drop (j + 1) := ⟨ds[j], List.drop_eq_getElem_cons hj⟩
    refine .tail (ih (Nat.le_of_lt hj) fun n hn hnj => hopen n hn (Nat.le_succ_of_le hnj)) ⟨d, place_succ hd, ?_⟩
    exact hopen (j + 1) (Nat.lt_succ_of_le hij) (Nat.le_refl _)

theorem place_concat (d : Direction) : place level (ds ++ [d]) (ds.length + 1) = place level ds ds.length + d.step := by
  rw [place_succ List.drop_left, place_append (Nat.le_refl _)]

/-- A walk goes on along any way from where its steps lead. -/
theorem exists_append_of_way (ds : List Direction) (h : Relation.ReflTransGen level.Opens (place level ds ds.length) p) :
    ∃ more, place level (ds ++ more) (ds ++ more).length = p ∧
      ∀ i, ds.length < i → i ≤ (ds ++ more).length → level.IsOpen (place level (ds ++ more) i) := by
  induction h with
  | refl => exact ⟨[], by rw [List.append_nil], fun i hlt hle => by rw [List.append_nil] at hle; omega⟩
  | tail _ hstep ih =>
    obtain ⟨more, hplace, hopen⟩ := ih
    obtain ⟨d, rfl, hlast⟩ := hstep
    have hcat : place level ((ds ++ more) ++ [d]) ((ds ++ more).length + 1) = _ := place_concat d
    rw [hplace] at hcat
    refine ⟨more ++ [d], ?_, fun i hlt hle => ?_⟩
    · rw [← List.append_assoc, List.length_append, List.length_singleton, hcat]
    · rw [← List.append_assoc] at hle ⊢
      rw [List.length_append, List.length_singleton] at hle
      rcases Nat.le_or_eq_of_le_succ hle with hle | rfl
      · rw [place_append hle]
        exact hopen i hlt hle
      · rw [hcat]
        exact hlast

end Walk.Plain

theorem Move.strides_map_unit (ds : List Direction) : strides (ds.map unit) = ds := by
  induction ds with
  | nil => rfl
  | cons d ds ih =>
    rw [List.map_cons, strides_cons, ih]
    rfl

namespace Level
open Walk.Plain

/-- Moves walk to victory where unit steps do. -/
theorem winnable_iff_outcome {l : Level} : l.Winnable ↔ ∃ ds, outcome l ds = .victory := by
  constructor
  · rintro ⟨moves, s, hs, hwon⟩
    rw [Walk.simulate_eq, Option.some.injEq] at hs
    exact ⟨_, hs ▸ hwon⟩
  · rintro ⟨ds, hwon⟩
    refine ⟨ds.map Move.unit, _, Walk.simulate_eq l _, ?_⟩
    rw [Move.strides_map_unit]
    exact hwon

/-- A level that does not start on an energy cell can be won exactly if open cells connect the start with an energy cell
    and that cell with a neighbour of a door. -/
theorem winnable_iff {l : Level} (hstart : l.terrain? l.start ≠ some .energy) : l.Winnable ↔
    ∃ e, l.terrain? e = some .energy ∧ Relation.ReflTransGen l.Opens l.start e ∧
      ∃ p d, Relation.ReflTransGen l.Opens e p ∧ l.terrain? (p + Direction.step d) = some .door := by
  rw [winnable_iff_outcome]
  simp only [outcome_eq_victory_iff]
  constructor
  · rintro ⟨ds, k, hlt, hdoor, hopen, i, hone, hik, hcharged⟩
    obtain ⟨d, hd⟩ : ∃ d, ds.drop k = d :: ds.drop (k + 1) := ⟨ds[k], List.drop_eq_getElem_cons hlt⟩
    refine ⟨Walk.Plain.place l ds i, hcharged, ?_, Walk.Plain.place l ds k, d, ?_, place_succ hd ▸ hdoor⟩
    · exact way_of_places (Nat.zero_le i) (by omega) fun n hn hni => hopen n hn (by omega)
    · exact way_of_places hik (Nat.le_of_lt hlt) fun n hn hnk => hopen n (by omega) hnk
  · rintro ⟨e, hcharged, hout, p, d, hon, hdoor⟩
    -- The walk goes to the energy cell first, then on to the neighbour of the door, then one step more.
    obtain ⟨first, hfirst, hopenFirst⟩ := exists_append_of_way [] hout
    simp only [List.nil_append, List.length_nil] at hfirst hopenFirst
    rw [← hfirst] at hon hcharged
    obtain ⟨more, hmore, hopenMore⟩ := exists_append_of_way first hon
    have hlength : (first ++ more).length = first.length + more.length := List.length_append
    have hfirstPos : 0 < first.length := by
      refine Nat.pos_of_ne_zero fun hzero => hstart ?_
      rwa [List.length_eq_zero_iff.mp hzero] at hcharged
    refine ⟨first ++ more ++ [d], (first ++ more).length, ?_, ?_, fun i hone hik => ?_, first.length, hfirstPos, ?_, ?_⟩
    · simp only [List.length_append, List.length_singleton]
      exact Nat.lt_succ_self _
    · rw [place_concat, hmore]
      exact hdoor
    · rw [place_append hik]
      rcases Nat.lt_or_ge first.length i with hi | hi
      · exact hopenMore i hi hik
      · rw [place_append hi]
        exact hopenFirst i hone hi
    · exact hlength ▸ Nat.le_add_right _ _
    · rwa [place_append (hlength ▸ Nat.le_add_right _ _), place_append (Nat.le_refl _)]

/-- A level cannot be won if no cell beside the start is open. -/
theorem not_winnable_of_enclosed {l : Level} (hstart : l.terrain? l.start ≠ some .energy)
    (henclosed : ∀ d : Direction, ¬l.IsOpen (l.start + d.step)) : ¬l.Winnable := by
  rw [winnable_iff hstart]
  rintro ⟨e, hcharged, hway, -⟩
  rcases hway.cases_head with rfl | ⟨p, ⟨d, rfl, hopen⟩, -⟩
  · exact hstart hcharged
  · exact henclosed d hopen

end Level

namespace Generator

/-- Whatever is drawn, a generated level can be won exactly if open cells connect the start with one of its energy cells
    and that cell with a neighbour of the door. -/
theorem generated_level_winnable_iff {σ : Type} {source : Random.DrawSource σ} {maxDraws : Nat} {size number : Int}
    {s s' : σ} {l : Level} (h : generateWithin maxDraws source size number s = .ok (l, s')) : l.Winnable ↔
      ∃ e ∈ l.energy, Relation.ReflTransGen l.Opens l.start e ∧
        ∃ p, Relation.ReflTransGen l.Opens e p ∧ ∃ d : Direction, p + d.step = l.door := by
  have hlaid := (generateWithin_gives maxDraws source size number s).2 l s' h
  have hstart : l.terrain? l.start ≠ some .energy := by
    rw [hlaid.start_safe]
    decide
  rw [Level.winnable_iff hstart]
  simp only [hlaid.energy_only, hlaid.door_only, exists_and_left]

theorem cornered_winnable_iff : ∃ l s, cornered = .ok (l, s) ∧ (l.Winnable ↔
    ∃ e ∈ l.energy, Relation.ReflTransGen l.Opens l.start e ∧
      ∃ p, Relation.ReflTransGen l.Opens e p ∧ ∃ d : Direction, p + d.step = l.door) := by
  obtain ⟨l, s, h⟩ := exists_cornered
  exact ⟨l, s, h, generated_level_winnable_iff h⟩

/-- The start of a small level has an obstacle on each side, so no moves walk to victory there. -/
theorem cornered_not_winnable : ∃ l s, generate (Random.replaying [0, 0, 0, 1, 1, 2]) 3 1 0 = .ok (l, s) ∧
    ∀ moves s, Walk.simulate l moves = some s → s.outcome ≠ .victory := by
  have hmade : cornered.toOption.map (fun r => (r.1.start, r.1.terrain? ⟨0, 2⟩, Direction.all.map fun d =>
      r.1.terrain? (⟨0, 2⟩ + d.step))) = some (⟨0, 2⟩, some .safe, [some .snake, none, some .void, none]) := by
    decide +kernel
  obtain ⟨l, s, h⟩ := exists_cornered
  obtain ⟨hstart, hsafe, hright, hleft, hup, hdown⟩ : l.start = ⟨0, 2⟩ ∧ l.terrain? ⟨0, 2⟩ = some .safe ∧
      l.terrain? (⟨0, 2⟩ + Direction.right.step) = some .snake ∧ l.terrain? (⟨0, 2⟩ + Direction.left.step) = none ∧
      l.terrain? (⟨0, 2⟩ + Direction.up.step) = some .void ∧ l.terrain? (⟨0, 2⟩ + Direction.down.step) = none := by
    simpa [h, Except.toOption, Direction.all] using hmade
  refine ⟨l, s, generateWithin_of_covers h (.refl _) (by decide), fun moves s hs hwon => ?_⟩
  refine Level.not_winnable_of_enclosed ?_ (fun d => ?_) ⟨moves, s, hs, hwon⟩
  · rw [hstart, hsafe]
    decide
  · rw [hstart, Level.IsOpen]
    cases d <;> simp only [hright, hleft, hup, hdown, reduceCtorEq, Option.some.injEq, or_self, not_false_eq_true]

end Generator
end GridWalk
