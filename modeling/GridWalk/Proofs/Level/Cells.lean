import GridWalk.Proofs.Level.Grid
import Mathlib.Data.List.Nodup
import Mathlib.Data.List.Perm.Subperm

/-! The cells of a grid in which each stores the place that it has. They are told apart by their positions, so they
    are counted by counting positions. -/

namespace GridWalk.Grid
variable {g : Grid} {c : Cell}

/-- Each cell stores the place that it has. -/
def Placed (g : Grid) : Prop := ∀ p c, g.cell? p = some c → c.position = p

/-- The number of cells with a terrain. -/
def count (g : Grid) (t : Terrain) : Nat := g.cells.countP (·.terrain = t)

theorem Placed.mem_cells_iff (h : g.Placed) : c ∈ g.cells ↔ g.cell? c.position = some c := by
  rw [Grid.mem_cells_iff]
  refine ⟨fun ⟨p, hp⟩ => ?_, fun hc => ⟨c.position, hc⟩⟩
  rw [h p c hp]
  exact hp

/-- Cells that store the places that they have store different ones. -/
theorem Placed.nodup (h : g.Placed) : (g.cells.map (·.position)).Nodup := by
  have hstored : ∀ {x y : Nat} {row : List Cell} {c : Cell}, g[y]? = some row → row[x]? = some c →
      c.position = ⟨x, y⟩ := fun hrow hc => h _ _ (cell?_eq_some_iff.mpr ⟨_, _, rfl, _, hrow, hc⟩)
  rw [cells, List.map_flatten, List.nodup_flatten]
  constructor
  · -- Within a row the columns differ.
    intro positions hpositions
    obtain ⟨row, hrow, rfl⟩ := List.mem_map.mp hpositions
    obtain ⟨y, hy⟩ := List.mem_iff_getElem?.mp hrow
    refine List.pairwise_map.mpr (List.pairwise_iff_getElem.mpr fun i j hi hj hij hsame => ?_)
    rw [hstored hy (List.getElem?_eq_getElem hi), hstored hy (List.getElem?_eq_getElem hj)] at hsame
    exact absurd (Int.natCast_inj.mp (Position.mk.inj hsame).1) (Nat.ne_of_lt hij)
  · -- Between two rows the row numbers differ.
    rw [List.pairwise_map, List.pairwise_iff_getElem]
    intro i j hi hj hij p hpi hpj
    obtain ⟨c, hc, rfl⟩ := List.mem_map.mp hpi
    obtain ⟨c', hc', hsame⟩ := List.mem_map.mp hpj
    obtain ⟨x, hx⟩ := List.mem_iff_getElem?.mp hc
    obtain ⟨x', hx'⟩ := List.mem_iff_getElem?.mp hc'
    rw [hstored (List.getElem?_eq_getElem hi) hx, hstored (List.getElem?_eq_getElem hj) hx'] at hsame
    exact absurd (Int.natCast_inj.mp (Position.mk.inj hsame).2) (Nat.ne_of_gt hij)

/-- Where each cell stores its place, the cells with a terrain are as many as the positions with it, of which a list
    that has them all has at least so many. -/
theorem Placed.count_le (h : g.Placed) {t : Terrain} {positions : List Position}
    (hall : ∀ p, g.terrain? p = some t → p ∈ positions) : g.count t ≤ positions.length := by
  have hsub : ((g.cells.filter (·.terrain = t)).map (·.position)) ⊆ positions := by
    intro p hp
    obtain ⟨c, hc, rfl⟩ := List.mem_map.mp hp
    obtain ⟨hmem, ht⟩ := List.mem_filter.mp hc
    exact hall _ (terrain?_eq_some_iff.mpr ⟨c, h.mem_cells_iff.mp hmem, of_decide_eq_true ht⟩)
  have hnodup : ((g.cells.filter (·.terrain = t)).map (·.position)).Nodup :=
    h.nodup.sublist (List.filter_sublist.map _)
  have hlength := (hnodup.subperm hsub).length_le
  rwa [List.length_map, ← List.countP_eq_length_filter] at hlength

end GridWalk.Grid
