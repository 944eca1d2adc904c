import GridWalk.Level.Picture
import GridWalk.Proofs.Level.Cells

/-! The picture of a level in which each cell stores its place. Marks are put on it one after the other; together they
    draw each cell by itself: the start, the guide path on a safe cell, or the terrain. No cell is drawn as the end of a
    line, so the rows of a picture are the lines of its text. -/

namespace GridWalk.Picture

/-- The character that a cell is drawn with on a level. -/
def drawn (l : Level) (c : Cell) : Char :=
  if c.position = l.start then Layout.startMark
  else if showsGuide c then Layout.guideMark
  else c.terrain.glyph

/-- The character that a cell is drawn with where a player may be over it. -/
def shown (l : Level) (player : Option Position) (c : Cell) : Char :=
  if player = some c.position then playerMark else drawn l c

section
variable {l : Level} {p : Position} {player : Option Position} {ch : Char} {f : Cell → Char}

theorem index?_eq {length : Nat} {i : Int} (hnonneg : 0 ≤ i) (hlt : i < length) : index? length i = some i.toNat := by
  rw [index?, if_pos hnonneg, if_pos hlt]

theorem mark_eq (hp : l.contains p = true) (rows : List (List Char)) :
    mark l p ch rows = .ok (rows.modify p.y.toNat (·.set p.x.toNat ch)) := by
  obtain ⟨hx, hwidth, hy, hheight⟩ := Grid.contains_iff.mp hp
  rw [mark, Level.height, Level.width, index?_eq hy hheight, index?_eq hx hwidth]

/-- A mark on a position draws the cell that stores it. -/
theorem mark_map (hplaced : l.grid.Placed) (hp : l.contains p = true) :
    mark l p ch (l.grid.map (·.map f)) = .ok (l.grid.map (·.map fun c => if c.position = p then ch else f c)) := by
  obtain ⟨hx, -, hy, -⟩ := Grid.contains_iff.mp hp
  rw [mark_eq hp]
  refine congrArg _ (List.ext_getElem? fun y => ?_)
  rw [List.getElem?_modify, Option.map_eq_map, List.getElem?_map, List.getElem?_map, Option.map_map]
  refine Option.map_congr fun row hrow => List.ext_getElem? fun x => ?_
  rw [List.getElem?_map]
  cases hc : row[x]? with
  | none =>
    by_cases hy : p.y.toNat = y <;> simp [hy, hc, List.getElem?_set']
  | some c =>
    have hposition : c.position = p ↔ p.y.toNat = y ∧ p.x.toNat = x := by
      rw [hplaced _ c (Grid.cell?_eq_some_iff.mpr ⟨x, y, rfl, row, hrow, hc⟩), Position.ext_iff]
      change ((x : Int) = p.x ∧ (y : Int) = p.y) ↔ _
      omega
    by_cases hy : p.y.toNat = y <;> by_cases hx : p.x.toNat = x <;> simp [hy, hx, hc, hposition, List.getElem?_set']

/-- Marks on the positions of cells draw the cells that store one of them. -/
theorem foldlM_mark_map (hplaced : l.grid.Placed) {cs : List Cell} (hcs : ∀ c ∈ cs, l.contains c.position = true) :
    cs.foldlM (fun rows c => mark l c.position ch rows) (l.grid.map (·.map f)) =
      .ok (l.grid.map (·.map fun c => if c.position ∈ cs.map (·.position) then ch else f c)) := by
  -- A mark changes how the cells are drawn, so this is for every drawing `f`.
  induction cs generalizing f with
  | nil => simp [pure, Except.pure]
  | cons c cs ih =>
    obtain ⟨hc, hrest⟩ := List.forall_mem_cons.mp hcs
    rw [List.foldlM_cons, mark_map hplaced hc]
    refine (ih hrest).trans (congrArg _ (List.map_congr_left fun row _ => List.map_congr_left fun c' _ => ?_))
    by_cases hmem : c'.position ∈ cs.map (·.position)
    · rw [if_pos hmem, List.map_cons, if_pos (List.mem_cons_of_mem _ hmem)]
    · simp only [List.map_cons, List.mem_cons, hmem, or_false, if_false]

theorem contains_position (hplaced : l.grid.Placed) {c : Cell} (hc : c ∈ l.grid.cells) : l.contains c.position = true :=
  Level.contains_of_terrain (Grid.terrain?_eq_some_iff.mpr ⟨c, hplaced.mem_cells_iff.mp hc, rfl⟩)

/-- A level is drawn cell by cell. -/
theorem board_eq (hplaced : l.grid.Placed) : board l = .ok (l.grid.map (·.map (drawn l))) := by
  have hguided : ∀ c ∈ l.grid.cells,
      (c.position ∈ (l.grid.cells.filter showsGuide).map (·.position) ↔ showsGuide c = true) := by
    intro c hc
    constructor
    · intro h
      obtain ⟨c', hc', hsame⟩ := List.mem_map.mp h
      obtain ⟨hmem, hshows⟩ := List.mem_filter.mp hc'
      have hcell := hplaced.mem_cells_iff.mp hmem
      rw [hsame, hplaced.mem_cells_iff.mp hc, Option.some.injEq] at hcell
      rwa [hcell]
    · exact fun h => List.mem_map.mpr ⟨c, List.mem_filter.mpr ⟨hc, h⟩, rfl⟩
  rw [board, foldlM_mark_map hplaced fun c hc => contains_position hplaced (List.mem_filter.mp hc).1]
  refine (mark_map hplaced l.start_mem).trans (congrArg _ (List.map_congr_left fun row hrow =>
    List.map_congr_left fun c hc => ?_))
  simp only [drawn, hguided c (List.mem_flatten.mpr ⟨row, hrow, hc⟩)]

/-- A picture without margins is drawn cell by cell, with the player over all others. -/
theorem rows_eq (hplaced : l.grid.Placed) (hplayer : ∀ p, player = some p → l.contains p = true) :
    rows l player false = .ok (l.grid.map (·.map (shown l player))) := by
  rw [rows, board_eq hplaced]
  cases player with
  | none => rfl
  | some p =>
    refine (congrArg (· >>= _) (mark_map hplaced (hplayer p rfl))).trans (congrArg Except.ok ?_)
    refine List.map_congr_left fun row _ => List.map_congr_left fun c _ => ?_
    simp only [shown, Option.some.injEq, eq_comm]

theorem rows_none (hplaced : l.grid.Placed) : rows l none false = .ok (l.grid.map (·.map (drawn l))) :=
  rows_eq hplaced nofun

/-- Margins are put around what is drawn without them. -/
theorem rows_margins (l : Level) (player : Option Position) :
    rows l player true = (rows l player false).map (withMargins l.width) := by
  unfold rows
  cases board l with
  | error e => rfl
  | ok drawnBoard =>
    cases player with
    | none => rfl
    | some p => cases h : mark l p playerMark drawnBoard <;> simp [h, bind, Except.bind, pure, Except.pure, Except.map]

theorem drawn_eq_startMark_iff {c : Cell} : drawn l c = Layout.startMark ↔ c.position = l.start := by
  unfold drawn
  split
  · rename_i hp
    exact iff_of_true rfl hp
  · rename_i hp
    refine iff_of_false ?_ hp
    split
    · decide
    · cases c.terrain <;> decide

theorem shown_eq_playerMark_iff {c : Cell} :
    shown l player c = playerMark ↔ c.position = l.start ∨ player = some c.position := by
  unfold shown
  split
  · rename_i hp
    exact iff_of_true rfl (.inr hp)
  · rename_i hp
    rw [or_iff_left hp]
    exact drawn_eq_startMark_iff

/-- No cell is drawn as the end of a line. -/
theorem newline_notMem_shown (l : Level) (player : Option Position) (row : List Cell) :
    '\n' ∉ row.map (shown l player) := by
  intro h
  obtain ⟨c, -, hc⟩ := List.mem_map.mp h
  unfold shown drawn at hc
  split at hc
  · cases hc
  · split at hc
    · cases hc
    · split at hc
      · cases hc
      · cases hterrain : c.terrain <;> rw [hterrain] at hc <;> cases hc

/-! ### Rows and lines -/

theorem render_of_rows {player : Option Position} {margins : Bool} {drawnRows : List (List Char)}
    (h : rows l player margins = .ok drawnRows) :
    render l player margins = .ok ("\n".intercalate (drawnRows.map String.ofList)) := by
  rw [render, lines, h]
  rfl

/-- Rows that are joined as lines are found again as lines. -/
theorem splitOn_joined {drawnRows : List (List Char)} (hne : drawnRows ≠ [])
    (hrows : ∀ row ∈ drawnRows, '\n' ∉ row) :
    ("\n".intercalate (drawnRows.map String.ofList)).toList.splitOn '\n' = drawnRows := by
  rw [String.toList_intercalate, List.map_map]
  simp only [Function.comp_def, String.toList_ofList, List.map_id']
  exact List.splitOn_intercalate '\n' hrows hne

/-- The lines of a picture without margins are the rows of the level drawn cell by cell. -/
theorem splitOn_render (hplaced : l.grid.Placed) (hplayer : ∀ p, player = some p → l.contains p = true) :
    ∃ text, render l player false = .ok text ∧ text.toList.splitOn '\n' = l.grid.map (·.map (shown l player)) := by
  refine ⟨_, render_of_rows (rows_eq hplaced hplayer), splitOn_joined ?_ fun row hrow => ?_⟩
  · rw [Ne, List.map_eq_nil_iff]
    exact l.grid_ne_nil
  · obtain ⟨cells, -, rfl⟩ := List.mem_map.mp hrow
    exact newline_notMem_shown l player cells

theorem splitOn_render_none (hplaced : l.grid.Placed) : ∃ text, render l none false = .ok text ∧
    text.toList.splitOn '\n' = l.grid.map (·.map (drawn l)) :=
  splitOn_render hplaced nofun

end
end GridWalk.Picture
