import GridWalk.Proofs.Level.Layout

/-! The layouts that make levels. A layout is well formed if its lines are of one length other than zero, each character
    is known, and one start and one door are among them. Just these layouts make a level, which has what they say; any
    other layout is refused for a fault that it has, before the level is made from what was found in it. -/

namespace GridWalk.Layout

/-- The characters of layouts. -/
def alphabet : List Char := ['.', '+', 'E', 'V', 'X', 'D', '@']

/-- A layout that makes a level. -/
structure WellFormed (lines : List (List Char)) : Prop where
  lines_ne_nil : lines ≠ []
  equal : ∃ width, 0 < width ∧ ∀ line ∈ lines, line.length = width
  known : ∀ line ∈ lines, ∀ c ∈ line, c ∈ alphabet
  one_start : lines.flatten.count '@' = 1
  one_door : lines.flatten.count 'D' = 1

/-- The character stands in the column and the line of the position, both counted from zero. -/
def Stands (lines : List (List Char)) (c : Char) (p : Position) : Prop :=
  ∃ x y : Nat, p = ⟨x, y⟩ ∧ ∃ row, lines[y]? = some row ∧ row[x]? = some c

/-- The order of reading: line by line, each from left to right. -/
def ReadBefore (p q : Position) : Prop := p.y < q.y ∨ p.y = q.y ∧ p.x < q.x

/-- The level has what the lines lay out, and what the heading says. -/
structure LaidOut (lines : List (List Char)) (heading : Heading) (l : Level) : Prop where
  width : ∀ line ∈ lines, line.length = l.width
  height : lines.length = l.height
  cells : ∀ p b, l.grid.cell? p = some b ↔
    ∃ c, Stands lines c p ∧ b.position = p ∧ terrain? c = some b.terrain ∧ (b.onGuide = true ↔ c = '+')
  start : ∀ p, Stands lines '@' p ↔ p = l.start
  door : ∀ p, Stands lines 'D' p ↔ p = l.door
  energy : ∀ p, Stands lines 'E' p ↔ p ∈ l.energy
  energy_ordered : l.energy.Pairwise ReadBefore
  guide : l.hasGuide = true ↔ ∃ line ∈ lines, '+' ∈ line
  number : l.number = heading.number
  required : l.requiredEnergy = min heading.number 3
  name : l.name = heading.name
  loops : l.allowsLoops = heading.allowsLoops
  limit : l.timeLimit = heading.timeLimit

/-- Why a layout makes no level. -/
inductive Fault (lines : List (List Char)) : LevelError → Prop
  | unknownCharacter {c : Char} {p : Position} (h : Stands lines c p) (hc : c ∉ alphabet) :
      Fault lines (.unknownCharacter c p)
  | secondStart (h : 2 ≤ lines.flatten.count '@') : Fault lines .secondStart
  | secondDoor (h : 2 ≤ lines.flatten.count 'D') : Fault lines .secondDoor
  | noStart (h : '@' ∉ lines.flatten) : Fault lines .noStart
  | noDoor (h : 'D' ∉ lines.flatten) : Fault lines .noDoor
  | emptyGrid (h : lines.head? = some []) : Fault lines .emptyGrid
  | unequalRows {line line' : List Char} (h : line ∈ lines) (h' : line' ∈ lines) (hne : line.length ≠ line'.length) :
      Fault lines .unequalRows

variable {lines : List (List Char)} {heading : Heading} {c : Char} {p : Position} {e : LevelError} {l : Level}

theorem Fault.not_wellFormed (h : Fault lines e) : ¬WellFormed lines := by
  rintro ⟨-, ⟨width, hpos, hequal⟩, hknown, hstart, hdoor⟩
  cases h with
  | unknownCharacter h hc =>
    obtain ⟨x, y, -, row, hrow, hchar⟩ := h
    exact hc (hknown row (List.mem_of_getElem? hrow) _ (List.mem_of_getElem? hchar))
  | secondStart h => omega
  | secondDoor h => omega
  | noStart h => simp [List.count_eq_zero_of_not_mem h] at hstart
  | noDoor h => simp [List.count_eq_zero_of_not_mem h] at hdoor
  | emptyGrid h =>
    have hzero := hequal [] (List.mem_of_head? h)
    simp at hzero
    omega
  | unequalRows h h' hne => exact hne ((hequal _ h).trans (hequal _ h').symm)

/-! ### Characters in the order of reading -/

theorem stands_iff : Stands lines c p ↔ (p, c) ∈ characters lines := mem_characters_iff.symm

theorem map_snd_characters (lines : List (List Char)) : (characters lines).map Prod.snd = lines.flatten := by
  simp [characters, Function.comp_def, List.flatMap_def]

theorem length_marked (c : Char) (lines : List (List Char)) : (marked c lines).length = lines.flatten.count c := by
  rw [marked, List.length_map, ← map_snd_characters, List.count, List.countP_map, List.countP_eq_length_filter]
  rfl

theorem mem_alphabet_iff : c ∈ alphabet ↔ (terrain? c).isSome = true := by
  constructor
  · intro h
    simp only [alphabet, List.mem_cons, List.not_mem_nil, or_false] at h
    rcases h with rfl | rfl | rfl | rfl | rfl | rfl | rfl <;> rfl
  · intro h
    unfold terrain? at h
    split at h <;> first | decide | cases h

theorem legible_iff : Legible lines ↔ ∀ line ∈ lines, ∀ c ∈ line, c ∈ alphabet := by
  have hmem : ∀ c, (∃ line ∈ lines, c ∈ line) ↔ ∃ p, (p, c) ∈ characters lines := by
    intro c
    rw [← List.mem_flatten, ← map_snd_characters]
    simp
  simp only [Legible, mem_alphabet_iff]
  constructor
  · intro h line hline c hc
    obtain ⟨p, hp⟩ := (hmem c).mp ⟨line, hline, hc⟩
    exact h _ hp
  · rintro h ⟨p, c⟩ hp
    obtain ⟨line, hline, hc⟩ := (hmem c).mpr ⟨p, hp⟩
    exact h line hline c hc

theorem pairwise_zipIdx {α : Type} (l : List α) : l.zipIdx.Pairwise fun a b => a.2 < b.2 := by
  have hrange := List.pairwise_lt_range' (s := 0) (n := l.length)
  rw [← List.zipIdx_map_snd, List.pairwise_map] at hrange
  exact hrange

theorem characters_ordered (lines : List (List Char)) :
    (characters lines).Pairwise fun e f => ReadBefore e.1 f.1 := by
  rw [characters, List.pairwise_flatMap]
  constructor
  · -- Within a line the columns ascend.
    rintro ⟨line, y⟩ -
    rw [List.pairwise_map]
    refine (pairwise_zipIdx line).imp fun h => .inr ⟨rfl, ?_⟩
    simpa using h
  · -- From line to line the rows ascend.
    refine (pairwise_zipIdx lines).imp ?_
    rintro ⟨line, y⟩ ⟨line', y'⟩ h e he f hf
    obtain ⟨a, -, rfl⟩ := List.mem_map.mp he
    obtain ⟨b, -, rfl⟩ := List.mem_map.mp hf
    refine .inl ?_
    simpa using h

theorem marked_ordered (c : Char) (lines : List (List Char)) : (marked c lines).Pairwise ReadBefore :=
  List.pairwise_map.mpr ((characters_ordered lines).sublist List.filter_sublist)

/-! ### The shape of the grid -/

theorem map_length_grid (lines : List (List Char)) : (grid lines).map List.length = lines.map List.length := by
  refine List.ext_getElem? fun y => ?_
  rw [List.getElem?_map, getElem?_grid, List.getElem?_map, Option.map_map]
  refine Option.map_congr fun line _ => ?_
  simp

theorem width_grid (lines : List (List Char)) : (grid lines).width = (lines.head?.getD []).length := by
  have hhead := congrArg List.head? (map_length_grid lines)
  rw [List.head?_map, List.head?_map] at hhead
  rw [Grid.width]
  cases hg : (grid lines).head? <;> cases hl : lines.head? <;> simp_all

theorem rectangular_iff : (∀ row ∈ grid lines, row.length = (grid lines).width) ↔
    ∀ line ∈ lines, line.length = (grid lines).width := by
  have hall : ∀ {α : Type} (rows : List (List α)) n,
      (∀ row ∈ rows, row.length = n) ↔ ∀ m ∈ rows.map List.length, m = n := by
    intro α rows n
    simp
  rw [hall, map_length_grid, ← hall]

/-! ### Faults -/

/-- A check that goes through a list is refused at the first element that it refuses. -/
theorem foldlM_eq_error {ε α β : Type} {f : β → α → Except ε β} {as : List α} {b : β} {e : ε}
    (h : as.foldlM f b = .error e) : ∃ before a after b', as = before ++ a :: after ∧ before.foldlM f b = .ok b' ∧
      f b' a = .error e := by
  induction as generalizing b with
  | nil => cases h
  | cons a as ih =>
    rw [List.foldlM_cons] at h
    cases ha : f b a with
    | error e' =>
      rw [ha] at h
      obtain rfl := Except.error.inj h
      exact ⟨[], a, as, b, rfl, rfl, ha⟩
    | ok b' =>
      rw [ha] at h
      obtain ⟨before, a', after, b'', rfl, hbefore, ha'⟩ := ih h
      refine ⟨a :: before, a', after, b'', rfl, ?_, ha'⟩
      rw [List.foldlM_cons, ha]
      exact hbefore

theorem note_eq_error {s : Survey} {entry : Position × Char} (h : s.note entry = .error e) :
    (terrain? entry.2 = none ∧ e = .unknownCharacter entry.2 entry.1) ∨
      (entry.2 = '@' ∧ s.start.isSome = true ∧ e = .secondStart) ∨
      (entry.2 = 'D' ∧ s.door.isSome = true ∧ e = .secondDoor) := by
  rw [Survey.note] at h
  split at h
  · rename_i hunknown
    exact .inl ⟨hunknown, (Except.error.inj h).symm⟩
  · rename_i t ht
    refine .inr ?_
    split at h
    · rename_i hstart
      split at h
      · rename_i hfound
        exact .inl ⟨hstart, hfound, (Except.error.inj h).symm⟩
      · cases h
    · split at h
      · rename_i hdoor
        split at h
        · rename_i hfound
          exact .inr ⟨terrain?_eq_door_iff.mp (hdoor ▸ ht), hfound, (Except.error.inj h).symm⟩
        · cases h
      · split at h <;> cases h

/-- A character that was found before is there twice at least. -/
theorem two_le_count {before after : List (Position × Char)} {entry : Position × Char} {o : Option Position}
    (hsplit : characters lines = before ++ entry :: after) (ho : o.isSome = true) (hentry : entry.2 = c)
    (hfound : (before.filter (·.2 = c)).map Prod.fst = o.toList) : 2 ≤ lines.flatten.count c := by
  obtain ⟨p, rfl⟩ := Option.isSome_iff_exists.mp ho
  have hone : (before.filter (·.2 = c)).length = 1 := by
    rw [← List.length_map (f := Prod.fst), hfound]
    rfl
  rw [← length_marked, marked, List.length_map, hsplit, List.filter_append, List.length_append, hone,
    List.filter_cons_of_pos (by simpa using hentry), List.length_cons]
  omega

theorem fault_of_survey (h : survey lines = .error e) : Fault lines e := by
  obtain ⟨before, entry, after, s, hsplit, hbefore, hentry⟩ := foldlM_eq_error h
  obtain ⟨-, hstart, hdoor, -⟩ := foldlM_note_eq_ok_iff.mp hbefore
  rcases note_eq_error hentry with ⟨hunknown, rfl⟩ | ⟨hat, hfound, rfl⟩ | ⟨hat, hfound, rfl⟩
  · refine .unknownCharacter (stands_iff.mpr ?_) fun hknown => ?_
    · rw [hsplit]
      exact List.mem_append_right _ List.mem_cons_self
    · rw [mem_alphabet_iff, hunknown] at hknown
      cases hknown
  · exact .secondStart (two_le_count hsplit hfound hat hstart)
  · exact .secondDoor (two_le_count hsplit hfound hat hdoor)

theorem terrain?_grid {t : Terrain} (h : p ∈ marked c lines) (ht : terrain? c = some t) :
    (grid lines).terrain? p = some t := by
  refine Grid.terrain?_eq_some_iff.mpr ⟨cell p c, cell?_grid_eq_some_iff.mpr ⟨c, mem_marked_iff.mp h, rfl⟩, ?_⟩
  rw [cell, ht]
  rfl

/-- What was found in a layout passes all checks but those of its shape. -/
theorem fault_of_flaw {d : LevelDraft} (hgrid : d.grid = grid lines) (hstart : d.start ∈ marked '@' lines)
    (hdoor : d.door ∈ marked 'D' lines) (henergy : d.energy = marked 'E' lines) (h : Level.Flaw d e) :
    Fault lines e := by
  obtain ⟨first, rest, rfl⟩ : ∃ first rest, lines = first :: rest := by
    refine List.exists_cons_of_ne_nil ?_
    rintro rfl
    cases hstart
  have hlies : ∀ {p c t}, p ∈ marked c (first :: rest) → terrain? c = some t → d.grid.terrain? p = some t := by
    rw [hgrid]
    exact terrain?_grid
  have hon : ∀ {p c t}, (∀ row ∈ d.grid, row.length = d.grid.width) → p ∈ marked c (first :: rest) →
      terrain? c = some t → d.grid.contains p = true :=
    fun hrows hp ht => (Grid.terrain?_isSome_iff hrows).mp (Option.isSome_of_eq_some (hlies hp ht))
  cases h with
  | emptyGrid hzero =>
    rw [hgrid, width_grid] at hzero
    refine .emptyGrid ?_
    simpa using hzero
  | unequalRows hunequal =>
    rw [hgrid, rectangular_iff, width_grid] at hunequal
    obtain ⟨line, hline⟩ := not_forall.mp hunequal
    obtain ⟨hmem, hlength⟩ := Classical.not_imp.mp hline
    exact .unequalRows hmem List.mem_cons_self hlength
  | startOutside hrows hout => exact absurd (hon hrows hstart rfl) hout
  | doorOutside hrows hout => exact absurd (hon hrows hdoor rfl) hout
  | notADoor hnot => exact absurd (hlies hdoor rfl) hnot
  | notEnergy hp hnot => exact absurd (hlies (henergy ▸ hp) rfl) hnot

theorem fault_of_level (h : level lines heading = .error e) : Fault lines e := by
  rw [level] at h
  cases hs : survey lines with
  | error e' =>
    rw [hs] at h
    obtain rfl := Except.error.inj h
    exact fault_of_survey hs
  | ok s =>
    obtain ⟨-, hstart, hdoor, henergy⟩ := survey_eq_ok_iff.mp hs
    have hmissing : ∀ {c}, marked c lines = [] → c ∉ lines.flatten := fun {c} hnone => by
      rw [← List.count_eq_zero, ← length_marked, hnone, List.length_nil]
    rw [hs] at h
    simp only [bind, Except.bind] at h
    split at h
    · obtain rfl := Except.error.inj h
      exact .noStart (hmissing hstart)
    · obtain rfl := Except.error.inj h
      exact .noDoor (hmissing hdoor)
    · exact fault_of_flaw rfl (hstart ▸ List.mem_singleton_self _) (hdoor ▸ List.mem_singleton_self _) henergy.symm
        (Level.flaw_of_ofDraft h)

/-! ### Levels -/

theorem wellFormed_of_level (h : level lines heading = .ok l) : WellFormed lines := by
  obtain ⟨start, door, hlegible, hstart, hdoor, hdraft⟩ := level_eq_ok_iff.mp h
  have hgrid : l.grid = grid lines := congrArg LevelDraft.grid hdraft
  have hwidth := l.width_pos
  have hrows := l.rectangular
  rw [hgrid] at hwidth hrows
  exact {
    lines_ne_nil := by
      rintro rfl
      cases hstart
    equal := ⟨_, hwidth, rectangular_iff.mp hrows⟩
    known := legible_iff.mp hlegible
    one_start := by
      rw [← length_marked]
      exact congrArg List.length hstart
    one_door := by
      rw [← length_marked, hdoor]
      rfl }

/-- The cell of a position says what the character that stands there says. -/
theorem cell?_grid_iff (hlegible : Legible lines) {b : Cell} : (grid lines).cell? p = some b ↔
    ∃ c, Stands lines c p ∧ b.position = p ∧ terrain? c = some b.terrain ∧ (b.onGuide = true ↔ c = '+') := by
  rw [cell?_grid_eq_some_iff]
  constructor
  · rintro ⟨c, hc, rfl⟩
    obtain ⟨t, ht⟩ := Option.isSome_iff_exists.mp (hlegible _ hc)
    refine ⟨c, stands_iff.mpr hc, rfl, ?_, decide_eq_true_iff⟩
    simp [cell, ht]
  · rintro ⟨c, hc, rfl, ht, hguide⟩
    refine ⟨c, stands_iff.mp hc, ?_⟩
    obtain ⟨p, t, onGuide⟩ := b
    simp only [cell, ht, Option.getD_some, Cell.mk.injEq, true_and]
    exact Bool.eq_iff_iff.mpr (hguide.trans decide_eq_true_iff.symm)

theorem laidOut_of_level (h : level lines heading = .ok l) : LaidOut lines heading l := by
  obtain ⟨start, door, hlegible, hstart, hdoor, hdraft⟩ := level_eq_ok_iff.mp h
  have hgrid : l.grid = grid lines := congrArg LevelDraft.grid hdraft
  have henergy : l.energy = marked 'E' lines := congrArg LevelDraft.energy hdraft
  have hrows := l.rectangular
  rw [hgrid] at hrows
  have honly : ∀ {c q}, marked c lines = [q] → ∀ p, Stands lines c p ↔ p = q := by
    intro c q hmarked p
    rw [stands_iff, ← mem_marked_iff, hmarked, List.mem_singleton]
  exact {
    width := by
      rw [Level.width, hgrid]
      exact rectangular_iff.mp hrows
    height := by
      rw [Level.height, hgrid, Grid.height, grid, List.length_map, List.length_zipIdx]
    cells := fun p b => hgrid ▸ cell?_grid_iff hlegible
    start := by
      rw [congrArg LevelDraft.start hdraft]
      exact honly hstart
    door := by
      rw [congrArg LevelDraft.door hdraft]
      exact honly hdoor
    energy := by
      intro p
      rw [henergy, mem_marked_iff, stands_iff]
    energy_ordered := by
      rw [henergy]
      exact marked_ordered 'E' lines
    guide := by
      rw [congrArg LevelDraft.hasGuide hdraft]
      simp [guideMark]
    number := congrArg LevelDraft.number hdraft
    required := congrArg LevelDraft.requiredEnergy hdraft
    name := congrArg LevelDraft.name hdraft
    loops := congrArg LevelDraft.allowsLoops hdraft
    limit := congrArg LevelDraft.timeLimit hdraft }

/-- Just the well-formed layouts make levels, which have what the lines lay out; any other layout is refused for a fault
    that it has. -/
theorem level_iff_wellFormed (lines : List (List Char)) (heading : Heading) :
    ((∃ l, level lines heading = .ok l) ↔ WellFormed lines) ∧
      (∀ l, level lines heading = .ok l → LaidOut lines heading l) ∧
      ((∃ e, level lines heading = .error e) ↔ ¬WellFormed lines) ∧
      ∀ e, level lines heading = .error e → Fault lines e := by
  refine ⟨⟨?_, fun hwell => ?_⟩, fun l => laidOut_of_level, ⟨?_, fun hnot => ?_⟩, fun e => fault_of_level⟩
  · rintro ⟨l, h⟩
    exact wellFormed_of_level h
  · cases h : level lines heading with
    | error e => exact absurd hwell (fault_of_level h).not_wellFormed
    | ok l => exact ⟨l, rfl⟩
  · rintro ⟨e, h⟩
    exact (fault_of_level h).not_wellFormed
  · cases h : level lines heading with
    | error e => exact ⟨e, rfl⟩
    | ok l => exact absurd (wellFormed_of_level h) hnot

/-- A level with a guide path, and lines of two lengths. -/
theorem guided_layout_laid_out :
    (∃ l, level [['+', 'E', 'D'], ['@', '.', 'V']] {} = .ok l ∧ LaidOut [['+', 'E', 'D'], ['@', '.', 'V']] {} l) ∧
      level [['@', 'D'], ['E']] {} = .error .unequalRows ∧ Fault [['@', 'D'], ['E']] .unequalRows ∧
      ¬WellFormed [['@', 'D'], ['E']] := by
  obtain ⟨hmakes, hlaid, -, -⟩ := level_iff_wellFormed [['+', 'E', 'D'], ['@', '.', 'V']] {}
  obtain ⟨-, -, hrefused, hfault⟩ := level_iff_wellFormed [['@', 'D'], ['E']] {}
  have hragged : level [['@', 'D'], ['E']] {} = .error .unequalRows := rfl
  obtain ⟨l, hl⟩ := hmakes.mpr {
    lines_ne_nil := by decide
    equal := ⟨3, by decide, by decide⟩
    known := by simp [alphabet]
    one_start := by decide
    one_door := by decide }
  exact ⟨⟨l, hl, hlaid l hl⟩, hragged, hfault _ hragged, hrefused.mp ⟨_, hragged⟩⟩

end GridWalk.Layout
