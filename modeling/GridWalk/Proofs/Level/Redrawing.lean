import GridWalk.Proofs.Level.Generated
import GridWalk.Proofs.Level.Layout
import GridWalk.Proofs.Level.Picture

/-! Pictures are layouts again. The picture of the level of a layout is the layout, and the picture of a level that can
    be written lays out that level, but for a guide path where the picture does not show it. -/

namespace GridWalk

/-- A level can be written: its cells store their places, the start is safe and off the guide path, and the door is the
    only one. -/
structure Level.Writable (l : Level) : Prop where
  placed : l.grid.Placed
  start_safe : l.terrain? l.start = some .safe
  start_unguided : ∀ c, l.grid.cell? l.start = some c → c.onGuide = false
  door_only : ∀ p, l.terrain? p = some .door → p = l.door

/-- A level is another one drawn again: of the same size, with the same terrain, start and door; all its energy cells are
    listed, in the order of reading, and its guide path is that of the other over safe cells. -/
structure Level.Redrawn (l l' : Level) : Prop where
  width : l'.width = l.width
  height : l'.height = l.height
  terrain : ∀ p, l'.terrain? p = l.terrain? p
  start : l'.start = l.start
  door : l'.door = l.door
  energy : l'.energy = (l.grid.cells.filter (·.terrain = .energy)).map (·.position)
  guide : ∀ p, (∃ c, l'.grid.cell? p = some c ∧ c.onGuide = true) ↔
    ∃ c, l.grid.cell? p = some c ∧ c.onGuide = true ∧ c.terrain = .safe

namespace Picture
open Layout

/-! ### The picture of a layout -/

theorem glyph_eq_of_terrain? {c : Char} {t : Terrain} (h : terrain? c = some t) (hstart : c ≠ startMark)
    (hguide : c ≠ guideMark) : t.glyph = c := by
  unfold terrain? at h
  split at h <;> cases h <;> first | rfl | exact absurd rfl hstart | exact absurd rfl hguide

section
variable {lines : List (List Char)} {heading : Heading} {l : Level}

/-- A cell of a layout is drawn with its character. -/
theorem drawn_cell (h : level lines heading = .ok l) {p : Position} {c : Char} (hc : (p, c) ∈ characters lines) :
    drawn l (cell p c) = c := by
  obtain ⟨start, door, hlegible, hstarts, -, hdraft⟩ := level_eq_ok_iff.mp h
  have hstart : l.start = start := congrArg LevelDraft.start hdraft
  have hwritten : p = start ↔ c = startMark := by
    rw [← List.mem_singleton, ← hstarts, mem_marked_iff]
    exact ⟨fun h => character_unique hc h, fun h => h ▸ hc⟩
  obtain ⟨t, ht⟩ := Option.isSome_iff_exists.mp (hlegible _ hc)
  simp only [drawn, cell, hstart, hwritten, showsGuide, ht, Option.getD_some, Bool.and_eq_true, decide_eq_true_eq]
  split
  · rename_i hmark
    exact hmark.symm
  · rename_i hmark
    split
    · rename_i hguide
      exact hguide.1.symm
    · rename_i hguide
      refine glyph_eq_of_terrain? ht hmark ?_
      rintro rfl
      exact hguide ⟨rfl, (Option.some.inj ht).symm⟩

theorem drawn_grid (h : level lines heading = .ok l) : l.grid.map (·.map (drawn l)) = lines := by
  obtain ⟨_, _, -, -, -, hdraft⟩ := level_eq_ok_iff.mp h
  rw [congrArg LevelDraft.grid hdraft]
  refine List.ext_getElem? fun y => ?_
  rw [List.getElem?_map, getElem?_grid, Option.map_map]
  cases hcs : lines[y]? with
  | none => rfl
  | some cs =>
    refine congrArg some (List.ext_getElem? fun x => ?_)
    rw [Function.comp, List.map_map, List.getElem?_map, List.getElem?_zipIdx, Option.map_map, Nat.zero_add]
    cases hc : cs[x]? with
    | none => rfl
    | some c => exact congrArg some (drawn_cell h (mem_characters_iff.mpr ⟨x, y, rfl, cs, hcs, hc⟩))

theorem writable_of_layout (h : level lines heading = .ok l) : l.Writable := by
  obtain ⟨start, door, hlegible, hstarts, hdoors, hdraft⟩ := level_eq_ok_iff.mp h
  have hgrid : l.grid = grid lines := congrArg LevelDraft.grid hdraft
  have hstart : l.grid.cell? l.start = some (cell l.start startMark) := by
    rw [hgrid, congrArg LevelDraft.start hdraft]
    refine cell?_grid_eq_some_iff.mpr ⟨startMark, mem_marked_iff.mp ?_, rfl⟩
    rw [hstarts]
    exact List.mem_singleton_self start
  exact {
    placed := hgrid ▸ placed_grid lines
    start_safe := Grid.terrain?_eq_some_iff.mpr ⟨_, hstart, rfl⟩
    start_unguided := fun c hc => by
      rw [hstart, Option.some.injEq] at hc
      rw [← hc]
      rfl
    door_only := fun p hp => by
      rw [Level.terrain?, hgrid] at hp
      obtain ⟨_, hcell, ht⟩ := Grid.terrain?_eq_some_iff.mp hp
      obtain ⟨c, hc, rfl⟩ := cell?_grid_eq_some_iff.mp hcell
      obtain ⟨t, hsome⟩ := Option.isSome_iff_exists.mp (hlegible _ hc)
      obtain rfl : t = .door := by
        rw [← ht, cell, hsome]
        rfl
      obtain rfl := terrain?_eq_door_iff.mp hsome
      rw [congrArg LevelDraft.door hdraft, ← List.mem_singleton, ← hdoors]
      exact mem_marked_iff.mpr hc }

end

/-! ### The layout of a picture -/

section
variable {l : Level} {c : Cell} (hl : l.Writable) (hc : c ∈ l.grid.cells)
include hl hc

theorem start_cell (hp : c.position = l.start) : c.terrain = .safe ∧ c.onGuide = false := by
  have hcell : l.grid.cell? l.start = some c := hp ▸ hl.placed.mem_cells_iff.mp hc
  obtain ⟨c', hc', hsafe⟩ := Grid.terrain?_eq_some_iff.mp hl.start_safe
  rw [hcell, Option.some.injEq] at hc'
  exact ⟨hc' ▸ hsafe, hl.start_unguided c hcell⟩

/-- What is drawn for a cell stands for it, but for a guide path that does not show. -/
theorem cell_drawn : cell c.position (drawn l c) = { c with onGuide := showsGuide c } := by
  obtain ⟨p, t, onGuide⟩ := c
  by_cases hp : p = l.start
  · obtain ⟨rfl, rfl⟩ : t = .safe ∧ onGuide = false := start_cell hl hc hp
    simp only [drawn, if_pos hp]
    rfl
  · cases t <;> cases onGuide <;> simp only [drawn, if_neg hp] <;> rfl

theorem terrain?_drawn : terrain? (drawn l c) = some c.terrain := by
  unfold drawn
  split
  · rename_i hp
    rw [(start_cell hl hc hp).1]
    rfl
  · split
    · rename_i hguide
      obtain ⟨-, hsafe⟩ := (Bool.and_eq_true _ _).mp hguide
      rw [of_decide_eq_true hsafe]
      rfl
    · cases c.terrain <;> rfl

end

theorem eq_singleton_iff {α : Type} {a : α} {as : List α} (hnodup : as.Nodup) : as = [a] ↔ ∀ b, b ∈ as ↔ b = a := by
  rw [← List.perm_singleton, List.perm_ext_iff_of_nodup hnodup (List.nodup_singleton a)]
  simp only [List.mem_singleton]

section
variable {l : Level} (hl : l.Writable)
include hl

theorem marked_start : marked startMark (l.grid.map (·.map (drawn l))) = [l.start] := by
  refine (eq_singleton_iff (nodup_marked _ _)).mpr fun p => ?_
  simp only [marked_map hl.placed, List.mem_map, List.mem_filter, decide_eq_true_eq, drawn_eq_startMark_iff]
  constructor
  · rintro ⟨c, ⟨-, hc⟩, rfl⟩
    exact hc
  · rintro rfl
    obtain ⟨c, hc, -⟩ := Grid.terrain?_eq_some_iff.mp hl.start_safe
    have hp := hl.placed _ c hc
    exact ⟨c, ⟨Grid.mem_cells_iff.mpr ⟨_, hc⟩, hp⟩, hp⟩

theorem marked_door : marked 'D' (l.grid.map (·.map (drawn l))) = [l.door] := by
  refine (eq_singleton_iff (nodup_marked _ _)).mpr fun p => ?_
  simp only [marked_map hl.placed, List.mem_map, List.mem_filter, decide_eq_true_eq]
  constructor
  · rintro ⟨c, ⟨hmem, hc⟩, rfl⟩
    rw [← terrain?_eq_door_iff, terrain?_drawn hl hmem, Option.some.injEq] at hc
    exact hl.door_only _ (Grid.terrain?_eq_some_iff.mpr ⟨c, hl.placed.mem_cells_iff.mp hmem, hc⟩)
  · rintro rfl
    obtain ⟨c, hc, hdoor⟩ := Grid.terrain?_eq_some_iff.mp l.door_terrain
    have hmem := Grid.mem_cells_iff.mpr ⟨_, hc⟩
    refine ⟨c, ⟨hmem, ?_⟩, hl.placed _ c hc⟩
    rw [← terrain?_eq_door_iff, terrain?_drawn hl hmem, hdoor]

theorem marked_energy : marked 'E' (l.grid.map (·.map (drawn l))) =
    (l.grid.cells.filter (·.terrain = .energy)).map (·.position) := by
  rw [marked_map hl.placed]
  refine congrArg _ (List.filter_congr fun c hc => decide_eq_decide.mpr ?_)
  rw [← terrain?_eq_energy_iff, terrain?_drawn hl hc, Option.some.injEq]

/-- The drawn rows lay out the cells, but for a guide path that does not show. -/
theorem grid_drawn : grid (l.grid.map (·.map (drawn l))) =
    l.grid.map (·.map fun c => { c with onGuide := showsGuide c }) := by
  rw [grid_map hl.placed]
  exact List.map_congr_left fun row hrow => List.map_congr_left fun c hc =>
    cell_drawn hl (List.mem_flatten.mpr ⟨row, hrow, hc⟩)

/-- A level that can be written is laid out again by the drawn rows. -/
theorem exists_redrawn (heading : Heading) :
    ∃ l', level (l.grid.map (·.map (drawn l))) heading = .ok l' ∧ l.Redrawn l' := by
  let written := l.grid.map (·.map (drawn l))
  have hterrain : ∀ p, (grid written).terrain? p = l.grid.terrain? p := fun p => by
    rw [grid_drawn hl]
    exact Grid.terrain?_map fun _ => rfl
  have hwidth : (grid written).width = l.grid.width := by
    rw [grid_drawn hl]
    exact Grid.width_map
  have hrows : ∀ row ∈ grid written, row.length = (grid written).width := by
    rw [hwidth, grid_drawn hl]
    intro row hrow
    obtain ⟨cells, hcells, rfl⟩ := List.mem_map.mp hrow
    rw [List.length_map]
    exact l.rectangular cells hcells
  -- The draft that the layout makes passes its check, as it has the shape and the terrain of the level.
  let l' : Level := {
    number := heading.number
    grid := grid written
    start := l.start
    door := l.door
    energy := marked 'E' written
    requiredEnergy := min heading.number Level.maxEnergy
    allowsLoops := heading.allowsLoops
    timeLimit := heading.timeLimit
    hasGuide := written.any (·.contains guideMark)
    name := heading.name
    width_pos := hwidth ▸ l.width_pos
    rectangular := hrows
    start_mem := by
      rw [grid_drawn hl, Grid.contains_map]
      exact l.start_mem
    door_terrain := (hterrain l.door).trans l.door_terrain
    energy_terrain := fun p hp => by
      rw [marked_energy hl] at hp
      obtain ⟨c, hc, rfl⟩ := List.mem_map.mp hp
      obtain ⟨hmem, henergy⟩ := List.mem_filter.mp hc
      rw [hterrain]
      exact Grid.terrain?_eq_some_iff.mpr ⟨c, hl.placed.mem_cells_iff.mp hmem, of_decide_eq_true henergy⟩ }
  have hlegible : Legible written := by
    rw [Legible, characters_map hl.placed]
    intro e he
    obtain ⟨c, hc, rfl⟩ := List.mem_map.mp he
    rw [terrain?_drawn hl hc]
    rfl
  refine ⟨l', level_eq_ok_iff.mpr ⟨l.start, l.door, hlegible, marked_start hl, marked_door hl, rfl⟩, ?_⟩
  exact {
    width := hwidth
    height := by
      rw [Level.height, show l'.grid = grid written from rfl, grid_drawn hl]
      exact Grid.height_map
    terrain := hterrain
    start := rfl
    door := rfl
    energy := marked_energy hl
    guide := fun p => by
      rw [show l'.grid = grid written from rfl, grid_drawn hl, Grid.cell?_map]
      simp only [Option.map_eq_some_iff, exists_exists_and_eq_and, showsGuide, Bool.and_eq_true, decide_eq_true_eq] }

end

/-- The picture of the level of a layout is its lines. -/
theorem render_of_layout {lines : List String} {heading : Heading} {l : Level}
    (h : level (lines.map String.toList) heading = .ok l) : render l none false = .ok ("\n".intercalate lines) := by
  rw [render_of_rows (rows_none (writable_of_layout h).placed), drawn_grid h, List.map_map]
  simp only [Function.comp_def, String.ofList_toList, List.map_id']

end Picture

theorem Generator.Laid.writable {number size : Int} {l : Level} (h : Laid number size l) : l.Writable where
  placed := h.placed
  start_safe := h.start_safe
  start_unguided := h.start_unguided
  door_only p := (h.door_only p).mp

open Picture Generator in
/-- Layouts and levels convert back and forth: a layout is the picture of its level, and the picture of a level that can
    be written lays it out again. The levels of layouts can be written, and so can generated ones. -/
theorem pictures_are_layouts :
    (∀ (lines : List String) heading l, Layout.level (lines.map String.toList) heading = .ok l →
      render l none false = .ok ("\n".intercalate lines) ∧ l.Writable) ∧
    (∀ (σ : Type) (source : Random.DrawSource σ) maxDraws size number s l s',
      generateWithin maxDraws source size number s = .ok (l, s') → l.Writable) ∧
    ∀ (l : Level) heading, l.Writable → ∃ text l', render l none false = .ok text ∧
      Layout.level (text.toList.splitOn '\n') heading = .ok l' ∧ l.Redrawn l' := by
  refine ⟨fun lines heading l h => ⟨render_of_layout h, writable_of_layout h⟩, ?_, fun l heading hl => ?_⟩
  · intro σ source maxDraws size number s l s' h
    exact ((generateWithin_gives maxDraws source size number s).2 l s' h).writable
  · obtain ⟨text, hrender, hrows⟩ := splitOn_render_none hl.placed
    obtain ⟨l', hlevel, hredrawn⟩ := exists_redrawn hl heading
    exact ⟨text, l', hrender, hrows ▸ hlevel, hredrawn⟩

open Generator in
/-- A level with a guide path is drawn, laid out and laid out again from its picture. -/
theorem guided_picture_is_layout : ∃ l l', Layout.level (["+ED", "@.V"].map String.toList) {} = .ok l ∧
    Picture.render l none false = .ok "+ED\n@.V" ∧
    Layout.level ("+ED\n@.V".toList.splitOn '\n') {} = .ok l' ∧ l.Redrawn l' := by
  obtain ⟨l, hl⟩ := exists_eq_ok (x := Layout.level (["+ED", "@.V"].map String.toList) {}) (by decide +kernel)
  obtain ⟨hrender, hwritable⟩ := pictures_are_layouts.1 _ _ _ hl
  obtain ⟨text, l', htext, hlevel, hredrawn⟩ := pictures_are_layouts.2.2 l {} hwritable
  rw [hrender, Except.ok.injEq] at htext
  subst htext
  exact ⟨l, l', hl, hrender, hlevel, hredrawn⟩

end GridWalk
