import GridWalk.Level.Basic

/-! The positions of a level. Its rows are all as long as the first, so exactly the positions on the grid
    have a cell. -/

namespace GridWalk

theorem Grid.contains_iff {g : Grid} {p : Position} :
    g.contains p = true ↔ 0 ≤ p.x ∧ p.x < g.width ∧ 0 ≤ p.y ∧ p.y < g.height := by
  simp only [Grid.contains, Bool.and_eq_true, decide_eq_true_eq, and_assoc]

/-- In a grid of equal rows exactly the positions on the grid have a terrain. -/
theorem Grid.terrain?_isSome_iff {g : Grid} (hrows : ∀ row ∈ g, row.length = g.width) {p : Position} :
    (g.terrain? p).isSome = true ↔ g.contains p = true := by
  rw [Grid.terrain?, Option.isSome_map, Grid.contains_iff, Grid.cell?]
  by_cases hpos : 0 ≤ p.x ∧ 0 ≤ p.y
  · obtain ⟨hx, hy⟩ := hpos
    rw [if_pos ⟨hx, hy⟩]
    by_cases hrow : p.y.toNat < g.length
    · have hlen := hrows _ (List.getElem_mem hrow)
      rw [List.getElem?_eq_getElem hrow, Option.bind_some, isSome_getElem?, hlen, Grid.height]
      omega
    · rw [List.getElem?_eq_none (Nat.le_of_not_lt hrow), Option.bind_none, Grid.height]
      simp only [Option.isSome_none, Bool.false_eq_true, false_iff]
      omega
  · rw [if_neg hpos]
    simp only [Option.isSome_none, Bool.false_eq_true, false_iff]
    omega

namespace Grid
variable {g : Grid} {p : Position} {c : Cell}

theorem cell?_natCast (g : Grid) (x y : Nat) : g.cell? ⟨x, y⟩ = g[y]?.bind (·[x]?) :=
  if_pos ⟨Int.natCast_nonneg x, Int.natCast_nonneg y⟩

/-- A cell lies in a column of a row. -/
theorem cell?_eq_some_iff : g.cell? p = some c ↔
    ∃ x y : Nat, p = ⟨x, y⟩ ∧ ∃ row, g[y]? = some row ∧ row[x]? = some c := by
  constructor
  · intro h
    obtain ⟨⟨hx, hy⟩, hcell⟩ := Option.ite_none_right_eq_some.mp h
    exact ⟨p.x.toNat, p.y.toNat, Position.ext (Int.toNat_of_nonneg hx).symm (Int.toNat_of_nonneg hy).symm,
      Option.bind_eq_some_iff.mp hcell⟩
  · rintro ⟨x, y, rfl, row, hrow, hc⟩
    rw [cell?_natCast, hrow]
    exact hc

theorem terrain?_eq_some_iff {t : Terrain} : g.terrain? p = some t ↔ ∃ c, g.cell? p = some c ∧ c.terrain = t :=
  Option.map_eq_some_iff

theorem mem_cells_iff : c ∈ g.cells ↔ ∃ p, g.cell? p = some c := by
  constructor
  · intro h
    obtain ⟨row, hrow, hc⟩ := List.mem_flatten.mp h
    obtain ⟨y, hy⟩ := List.mem_iff_getElem?.mp hrow
    obtain ⟨x, hx⟩ := List.mem_iff_getElem?.mp hc
    exact ⟨⟨x, y⟩, cell?_eq_some_iff.mpr ⟨x, y, rfl, row, hy, hx⟩⟩
  · rintro ⟨p, h⟩
    obtain ⟨x, y, -, row, hrow, hc⟩ := cell?_eq_some_iff.mp h
    exact List.mem_flatten.mpr ⟨row, List.mem_of_getElem? hrow, List.mem_of_getElem? hc⟩

/-! What is changed cell by cell keeps its shape. -/

section
variable {f : Cell → Cell}

theorem cell?_map : cell? (g.map (·.map f)) p = (g.cell? p).map f := by
  simp only [cell?, List.getElem?_map, apply_ite (Option.map f), Option.map_none, Option.map_bind, Option.bind_map,
    Function.comp_def]

theorem width_map : width (g.map (·.map f)) = g.width := by
  cases g with
  | nil => rfl
  | cons row rows => exact List.length_map f

theorem height_map : height (g.map (·.map f)) = g.height := List.length_map _

theorem contains_map : contains (g.map (·.map f)) p = g.contains p := by
  rw [contains, width_map, height_map, contains]

theorem terrain?_map (hf : ∀ c, (f c).terrain = c.terrain) : terrain? (g.map (·.map f)) p = g.terrain? p := by
  rw [terrain?, cell?_map, Option.map_map, terrain?]
  exact Option.map_congr fun c _ => hf c

end

end Grid

namespace Level

theorem terrain?_isSome_iff {l : Level} {p : Position} : (l.terrain? p).isSome = true ↔ l.contains p = true :=
  Grid.terrain?_isSome_iff l.rectangular

theorem terrain?_eq_none_iff {l : Level} {p : Position} : l.terrain? p = none ↔ l.contains p = false := by
  rw [← Option.not_isSome_iff_eq_none, terrain?_isSome_iff, Bool.not_eq_true]

/-- A draft that a level has passes its check, and what passes the check has the draft. -/
theorem ofDraft_eq_ok_iff {d : LevelDraft} {l : Level} : ofDraft d = .ok l ↔ l.toLevelDraft = d := by
  constructor
  · intro h
    unfold ofDraft at h
    split at h
    · cases h
    split at h
    · cases h
    split at h
    · cases h
    split at h
    · cases h
    split at h
    · cases h
    split at h
    · cases h
    · exact (congrArg Level.toLevelDraft (Except.ok.inj h)).symm
  · rintro rfl
    have hdoor : l.grid.contains l.door = true :=
      (Grid.terrain?_isSome_iff l.rectangular).mp (Option.isSome_of_eq_some l.door_terrain)
    have henergy : l.energy.find? (l.grid.terrain? · ≠ some .energy) = none :=
      List.find?_eq_none.mpr fun p hp => by simp [l.energy_terrain p hp]
    unfold ofDraft
    rw [dif_neg (Nat.ne_of_gt l.width_pos), dif_neg (not_not_intro l.rectangular), dif_neg (not_not_intro l.start_mem),
      if_neg (not_not_intro hdoor), dif_neg (not_not_intro l.door_terrain)]
    split
    · rename_i p hp
      rw [henergy] at hp
      cases hp
    · rfl

/-- Why a draft is no level. -/
inductive Flaw (d : LevelDraft) : LevelError → Prop
  | emptyGrid (h : d.grid.width = 0) : Flaw d .emptyGrid
  | unequalRows (h : ¬∀ row ∈ d.grid, row.length = d.grid.width) : Flaw d .unequalRows
  | startOutside (hrows : ∀ row ∈ d.grid, row.length = d.grid.width) (h : ¬d.grid.contains d.start = true) :
      Flaw d (.startOutside d.start)
  | doorOutside (hrows : ∀ row ∈ d.grid, row.length = d.grid.width) (h : ¬d.grid.contains d.door = true) :
      Flaw d (.doorOutside d.door)
  | notADoor (h : d.grid.terrain? d.door ≠ some .door) : Flaw d (.notADoor d.door)
  | notEnergy {p : Position} (hp : p ∈ d.energy) (h : d.grid.terrain? p ≠ some .energy) : Flaw d (.notEnergy p)

theorem flaw_of_ofDraft {d : LevelDraft} {e : LevelError} (h : ofDraft d = .error e) : Flaw d e := by
  unfold ofDraft at h
  split at h
  · rename_i hwidth
    obtain rfl := Except.error.inj h
    exact .emptyGrid hwidth
  split at h
  · rename_i hrows
    obtain rfl := Except.error.inj h
    exact .unequalRows hrows
  rename_i hrows
  split at h
  · rename_i hstart
    obtain rfl := Except.error.inj h
    exact .startOutside (Decidable.not_not.mp hrows) hstart
  split at h
  · rename_i hdoor
    obtain rfl := Except.error.inj h
    exact .doorOutside (Decidable.not_not.mp hrows) hdoor
  split at h
  · rename_i hterrain
    obtain rfl := Except.error.inj h
    exact .notADoor hterrain
  split at h
  · rename_i p hp
    obtain rfl := Except.error.inj h
    refine .notEnergy (List.mem_of_find?_eq_some hp) ?_
    have hnot := List.find?_some hp
    simpa using hnot
  · cases h

theorem grid_ne_nil (l : Level) : l.grid ≠ [] := by
  intro hnil
  have hpos := l.width_pos
  rw [hnil] at hpos
  cases hpos

theorem contains_of_terrain {l : Level} {p : Position} {t : Terrain} (h : l.terrain? p = some t) :
    l.contains p = true :=
  terrain?_isSome_iff.mp (Option.isSome_of_eq_some h)

end Level
end GridWalk
