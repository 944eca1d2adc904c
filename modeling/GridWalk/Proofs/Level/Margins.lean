import GridWalk.Proofs.Level.Picture
import GridWalk.Proofs.Level.WellFormed
import Mathlib.Data.Nat.Digits.Lemmas

/-! Pictures with margins. No row number has more digits than the last one, so the labels are of one width at any height:
    every line is a label, a blank and a row of the picture without margins, below the last digits of the column numbers.
    The player changes nothing in a picture but where the player is. -/

namespace GridWalk.Picture
open Layout

/-- The lines of a text. -/
def linesOf (text : String) : List (List Char) := text.toList.splitOn '\n'

/-- Lines that show plain lines with margins, their labels of a width: one more line, all of one length, with the plain
    lines behind the margins. A label is the line's number on the right of its column, and the columns are numbered by
    their last digits. -/
structure Framed (labelWidth width height : Nat) (plain view : List (List Char)) : Prop where
  count : view.length = height + 1
  lengths : ∀ line ∈ view, line.length = labelWidth + 1 + width
  inside : view.tail.map (·.drop (labelWidth + 1)) = plain
  labels : ∀ y < height, ∃ line blanks, view[y + 1]? = some line ∧ blanks + (toString y).length = labelWidth ∧
    line.take (labelWidth + 1) = List.replicate blanks ' ' ++ (toString y).toList ++ [' ']
  columns : ∀ x < width, Stands view (Nat.digitChar (x % 10)) ⟨(labelWidth + 1 + x : Nat), 0⟩

/-! ### Labels -/

theorem length_toString_le_iff {n k : Nat} (hk : 0 < k) : (toString n).length ≤ k ↔ n < 10 ^ k := Nat.length_repr_le_iff hk

theorem length_toString_mono {m n : Nat} (h : m ≤ n) : (toString m).length ≤ (toString n).length := by
  have hpos : 0 < (toString n).length := Nat.length_repr_pos
  exact (length_toString_le_iff hpos).mpr (Nat.lt_of_le_of_lt h ((length_toString_le_iff hpos).mp (Nat.le_refl _)))

/-- Labels are as wide as the last row number, and two characters at least. -/
theorem labelWidth_eq (height : Nat) : labelWidth height = max 2 (Nat.digits 10 (height - 1)).length := by
  refine eq_of_forall_ge_iff fun k => ?_
  rw [labelWidth, max_le_iff, max_le_iff]
  refine and_congr_right fun hk => ?_
  rw [length_toString_le_iff (by omega), Nat.digits_length_le_iff (by decide)]

theorem length_toString_le_labelWidth {y height : Nat} (h : y < height) : (toString y).length ≤ labelWidth height :=
  (length_toString_mono (Nat.le_sub_one_of_lt h)).trans (Nat.le_max_right _ _)

theorem length_padded {width : Nat} {cs : List Char} (h : cs.length ≤ width) : (padded width cs).length = width := by
  rw [padded, List.length_append, List.length_replicate, Nat.sub_add_cancel h]

theorem newline_notMem_toString (n : Nat) : '\n' ∉ (toString n).toList := by
  rw [Nat.toString_eq_ofList_toDigits, String.toList_ofList]
  intro h
  cases Nat.isDigit_of_mem_toDigits (by decide) (Nat.le_refl 10) h

theorem digitChar_ne_newline : ∀ d < 10, Nat.digitChar d ≠ '\n' := by decide

/-! ### Margins -/

section
variable {width : Nat} {plain : List (List Char)}

/-- The line above the rows. -/
def header (labelWidth width : Nat) : List Char :=
  List.replicate (labelWidth + 1) ' ' ++ (List.range width).map fun x => Nat.digitChar (x % 10)

/-- What stands before a row: its number and a blank. -/
def label (labelWidth y : Nat) : List Char := padded labelWidth (toString y).toList ++ [' ']

theorem withMargins_eq (width : Nat) (plain : List (List Char)) : withMargins width plain =
    header (labelWidth plain.length) width :: plain.zipIdx.map fun e => label (labelWidth plain.length) e.2 ++ e.1 := by
  simp only [label, ← List.append_cons]
  rfl

theorem mem_withMargins_iff {line : List Char} : line ∈ withMargins width plain ↔
    line = header (labelWidth plain.length) width ∨
      ∃ y row, plain[y]? = some row ∧ line = label (labelWidth plain.length) y ++ row := by
  simp only [withMargins_eq, List.mem_cons, List.mem_map, Prod.exists, List.mem_zipIdx_iff_getElem?]
  refine or_congr_right ⟨?_, ?_⟩
  · rintro ⟨row, y, hrow, hline⟩
    exact ⟨y, row, hrow, hline.symm⟩
  · rintro ⟨y, row, hrow, hline⟩
    exact ⟨row, y, hrow, hline.symm⟩

theorem getElem?_tail_withMargins (y : Nat) : (withMargins width plain).tail[y]? =
    plain[y]?.map (label (labelWidth plain.length) y ++ ·) := by
  rw [withMargins_eq, List.tail_cons, List.getElem?_map, List.getElem?_zipIdx, Option.map_map, Nat.zero_add]
  rfl

theorem length_label {y height : Nat} (h : y < height) : (label (labelWidth height) y).length = labelWidth height + 1 := by
  rw [label, List.length_append, length_padded (length_toString_le_labelWidth h), List.length_singleton]

/-- Whatever the rows are, margins frame them. -/
theorem framed_withMargins (hplain : ∀ row ∈ plain, row.length = width) :
    Framed (labelWidth plain.length) width plain.length plain (withMargins width plain) where
  count := by rw [withMargins_eq, List.length_cons, List.length_map, List.length_zipIdx]
  lengths line hline := by
    rcases mem_withMargins_iff.mp hline with hline | ⟨y, row, hrow, hline⟩
    · rw [hline, header, List.length_append, List.length_replicate, List.length_map, List.length_range]
    · obtain ⟨hy, rfl⟩ := List.getElem?_eq_some_iff.mp hrow
      rw [hline, List.length_append, length_label hy, hplain _ (List.getElem_mem hy)]
  inside := by
    refine List.ext_getElem? fun y => ?_
    rw [List.getElem?_map, getElem?_tail_withMargins, Option.map_map]
    cases hrow : plain[y]? with
    | none => rfl
    | some row =>
      obtain ⟨hy, -⟩ := List.getElem?_eq_some_iff.mp hrow
      rw [Option.map_some, Function.comp_apply, List.drop_left' (length_label hy)]
  labels y hy := by
    refine ⟨label (labelWidth plain.length) y ++ plain[y], labelWidth plain.length - (toString y).length, ?_,
      Nat.sub_add_cancel (length_toString_le_labelWidth hy), List.take_left' (length_label hy)⟩
    rw [← List.getElem?_tail, getElem?_tail_withMargins, List.getElem?_eq_getElem hy]
    rfl
  columns x hx := by
    refine ⟨labelWidth plain.length + 1 + x, 0, rfl, header (labelWidth plain.length) width, rfl, ?_⟩
    rw [header, List.getElem?_append_right (by simp), List.length_replicate, Nat.add_sub_cancel_left,
      List.getElem?_map, List.getElem?_range hx]
    rfl

theorem newline_notMem_withMargins (hplain : ∀ row ∈ plain, '\n' ∉ row) {line : List Char}
    (hline : line ∈ withMargins width plain) : '\n' ∉ line := by
  rcases mem_withMargins_iff.mp hline with hline | ⟨y, row, hrow, hline⟩
  · simp only [hline, header, List.mem_append, List.mem_replicate, List.mem_map, not_or, not_and, not_exists]
    exact ⟨fun _ => by decide, fun x _ => digitChar_ne_newline _ (Nat.mod_lt x (by decide))⟩
  · simp only [hline, label, padded, List.mem_append, List.mem_replicate, List.mem_singleton, not_or, not_and]
    exact ⟨⟨⟨fun _ => by decide, newline_notMem_toString y⟩, by decide⟩, hplain row (List.mem_of_getElem? hrow)⟩

end

/-! ### The player -/

/-- What stands in the picture of a grid is what its cells are drawn with. -/
theorem stands_map_iff {g : Grid} {f : Cell → Char} {c : Char} {p : Position} :
    Stands (g.map (·.map f)) c p ↔ ∃ b, g.cell? p = some b ∧ f b = c := by
  simp only [Stands, Grid.cell?_eq_some_iff, List.getElem?_map, Option.map_eq_some_iff]
  constructor
  · rintro ⟨x, y, rfl, row, ⟨cells, hcells, rfl⟩, hc⟩
    obtain ⟨b, hb, rfl⟩ := by simpa only [List.getElem?_map, Option.map_eq_some_iff] using hc
    exact ⟨b, ⟨x, y, rfl, cells, hcells, hb⟩, rfl⟩
  · rintro ⟨b, ⟨x, y, rfl, cells, hcells, hb⟩, rfl⟩
    refine ⟨x, y, rfl, _, ⟨cells, hcells, rfl⟩, ?_⟩
    rw [List.getElem?_map, hb]
    rfl

variable {l : Level} {player : Option Position}

/-- The player is over one cell alone. -/
theorem stands_shown_iff (hplaced : l.grid.Placed) {c : Char} {p : Position} (hp : player ≠ some p) :
    Stands (l.grid.map (·.map (shown l player))) c p ↔ Stands (l.grid.map (·.map (drawn l))) c p := by
  rw [stands_map_iff, stands_map_iff]
  refine exists_congr fun b => and_congr_right fun hb => ?_
  rw [shown, hplaced p b hb, if_neg hp]

theorem stands_playerMark_iff (hplaced : l.grid.Placed) (hplayer : ∀ p, player = some p → l.contains p = true)
    {p : Position} :
    Stands (l.grid.map (·.map (shown l player))) playerMark p ↔ p = l.start ∨ player = some p := by
  simp only [stands_map_iff, shown_eq_playerMark_iff]
  constructor
  · rintro ⟨b, hb, hdrawn⟩
    rwa [hplaced p b hb] at hdrawn
  · intro hp
    have hcontains : l.contains p = true := hp.elim (fun h => h ▸ l.start_mem) (hplayer p)
    obtain ⟨t, ht⟩ := Option.isSome_iff_exists.mp (Level.terrain?_isSome_iff.mpr hcontains)
    obtain ⟨b, hb, -⟩ := Grid.terrain?_eq_some_iff.mp ht
    rw [← hplaced p b hb] at hp
    exact ⟨b, hb, hp⟩

theorem length_of_mem_shown (l : Level) (player : Option Position) :
    ∀ row ∈ l.grid.map (·.map (shown l player)), row.length = l.width := by
  intro row hrow
  obtain ⟨cells, hcells, rfl⟩ := List.mem_map.mp hrow
  rw [List.length_map]
  exact l.rectangular cells hcells

/-- The lines of a picture with margins are the rows of the level with margins around them. -/
theorem splitOn_render_margins (hplaced : l.grid.Placed) (hplayer : ∀ p, player = some p → l.contains p = true) :
    ∃ text, render l player true = .ok text ∧
      text.toList.splitOn '\n' = withMargins l.width (l.grid.map (·.map (shown l player))) := by
  have hrows : rows l player true = .ok (withMargins l.width (l.grid.map (·.map (shown l player)))) := by
    rw [rows_margins, rows_eq hplaced hplayer]
    rfl
  refine ⟨_, render_of_rows hrows, splitOn_joined (List.cons_ne_nil _ _) fun line hline => ?_⟩
  refine newline_notMem_withMargins (fun row hrow => ?_) hline
  obtain ⟨cells, -, rfl⟩ := List.mem_map.mp hrow
  exact newline_notMem_shown l player cells

/-- The picture with margins of a level is the picture without them, each line behind its number and below the last digits
    of the column numbers. The player is drawn over one cell of the picture, and the mark of the player stands there and at
    the start alone. -/
theorem margins_frame_plain_picture (l : Level) (player : Option Position) (hplaced : l.grid.Placed)
    (hplayer : ∀ p, player = some p → l.contains p = true) :
    ∃ bare plain view, render l none false = .ok bare ∧ render l player false = .ok plain ∧
      render l player true = .ok view ∧
      Framed (max 2 (Nat.digits 10 (l.height - 1)).length) l.width l.height (linesOf plain) (linesOf view) ∧
      (∀ c p, player ≠ some p → (Stands (linesOf plain) c p ↔ Stands (linesOf bare) c p)) ∧
      ∀ p, Stands (linesOf plain) '@' p ↔ p = l.start ∨ player = some p := by
  obtain ⟨bare, hbare, hbareLines⟩ := splitOn_render_none hplaced
  obtain ⟨plain, hplain, hplainLines⟩ := splitOn_render hplaced hplayer
  obtain ⟨view, hview, hviewLines⟩ := splitOn_render_margins hplaced hplayer
  refine ⟨bare, plain, view, hbare, hplain, hview, ?_⟩
  simp only [linesOf, hbareLines, hplainLines, hviewLines]
  refine ⟨?_, fun c p hp => stands_shown_iff hplaced hp, fun p => stands_playerMark_iff hplaced hplayer⟩
  have hframed := framed_withMargins (length_of_mem_shown l player)
  rw [List.length_map, labelWidth_eq] at hframed
  exact hframed

/-- A level whose last row number has three digits. -/
def tower : Level where
  number := 1
  grid := grid (['@', 'D'] :: List.replicate 100 ['.', '.'])
  start := ⟨0, 0⟩
  door := ⟨1, 0⟩
  energy := []
  width_pos := by decide
  rectangular := by decide +kernel
  start_mem := by decide +kernel
  door_terrain := by decide
  energy_terrain := nofun

theorem tower_margins_frame_plain_picture : tower.contains ⟨1, 100⟩ = true ∧ ∃ bare plain view,
    render tower none false = .ok bare ∧ render tower (some ⟨1, 100⟩) false = .ok plain ∧
    render tower (some ⟨1, 100⟩) true = .ok view ∧ Framed 3 2 101 (linesOf plain) (linesOf view) ∧
    (∀ c p, p ≠ ⟨1, 100⟩ → (Stands (linesOf plain) c p ↔ Stands (linesOf bare) c p)) ∧
    Stands (linesOf plain) '@' ⟨1, 100⟩ ∧ ¬Stands (linesOf plain) '@' ⟨1, 99⟩ := by
  have hcontains : tower.contains ⟨1, 100⟩ = true := by decide +kernel
  have hplayer : ∀ p, some ⟨1, 100⟩ = some p → tower.contains p = true := fun p hp => Option.some.inj hp ▸ hcontains
  obtain ⟨bare, plain, view, hbare, hplain, hview, hframed, hsame, hmark⟩ :=
    margins_frame_plain_picture tower (some ⟨1, 100⟩) (placed_grid _) hplayer
  have hwidth : tower.width = 2 := rfl
  have hheight : tower.height = 101 := by decide +kernel
  have hdigits : max 2 (Nat.digits 10 (101 - 1)).length = 3 := by norm_num
  rw [hwidth, hheight, hdigits] at hframed
  refine ⟨hcontains, bare, plain, view, hbare, hplain, hview, hframed, fun c p hp => hsame c p ?_, ?_, ?_⟩
  · rw [Ne, Option.some.injEq]
    exact hp.symm
  · exact (hmark _).mpr (.inr rfl)
  · rw [hmark]
    decide

end GridWalk.Picture
