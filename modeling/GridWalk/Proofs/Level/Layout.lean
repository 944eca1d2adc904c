import GridWalk.Level.Layout
import GridWalk.Proofs.Level.Cells

/-! What a written layout lays out. Its survey finds the positions of each mark in the order of reading, and refuses a
    second start or door; so a layout makes a level exactly if all its characters are legible, it has one start and one
    door, and its rows are equal. -/

namespace GridWalk.Layout

/-- The positions of a character in a layout, in the order of reading. -/
def marked (c : Char) (lines : List (List Char)) : List Position :=
  ((characters lines).filter (·.2 = c)).map Prod.fst

/-- Every character stands for a terrain. -/
def Legible (lines : List (List Char)) : Prop := ∀ e ∈ characters lines, (terrain? e.2).isSome = true

section
variable {lines : List (List Char)} {p : Position} {c : Char}

/-! ### Characters and cells -/

theorem mem_characters_iff : (p, c) ∈ characters lines ↔
    ∃ x y : Nat, p = ⟨x, y⟩ ∧ ∃ cs, lines[y]? = some cs ∧ cs[x]? = some c := by
  simp only [characters, List.mem_flatMap, List.mem_map, Prod.mk.injEq, Prod.exists, List.mem_zipIdx_iff_getElem?]
  constructor
  · rintro ⟨cs, y, hcs, c, x, hc, rfl, rfl⟩
    exact ⟨x, y, rfl, cs, hcs, hc⟩
  · rintro ⟨x, y, rfl, cs, hcs, hc⟩
    exact ⟨cs, y, hcs, c, x, hc, rfl, rfl⟩

theorem character_unique {c' : Char} (h : (p, c) ∈ characters lines) (h' : (p, c') ∈ characters lines) : c = c' := by
  obtain ⟨x, y, rfl, cs, hcs, hc⟩ := mem_characters_iff.mp h
  obtain ⟨x', y', hp, cs', hcs', hc'⟩ := mem_characters_iff.mp h'
  obtain rfl : x = x' := Int.natCast_inj.mp (Position.mk.inj hp).1
  obtain rfl : y = y' := Int.natCast_inj.mp (Position.mk.inj hp).2
  rw [hcs, Option.some.injEq] at hcs'
  rw [← hcs', hc, Option.some.injEq] at hc'
  exact hc'

theorem getElem?_grid (lines : List (List Char)) (y : Nat) : (grid lines)[y]? =
    lines[y]?.map fun cs => cs.zipIdx.map fun e => cell ⟨(e.2 : Nat), (y : Nat)⟩ e.1 := by
  rw [grid, List.getElem?_map, List.getElem?_zipIdx, Option.map_map, Nat.zero_add]
  rfl

theorem cell?_grid_eq_some_iff {b : Cell} :
    (grid lines).cell? p = some b ↔ ∃ c, (p, c) ∈ characters lines ∧ b = cell p c := by
  rw [Grid.cell?_eq_some_iff]
  constructor
  · rintro ⟨x, y, rfl, row, hrow, hb⟩
    rw [getElem?_grid] at hrow
    obtain ⟨cs, hcs, rfl⟩ := Option.map_eq_some_iff.mp hrow
    rw [List.getElem?_map, List.getElem?_zipIdx, Option.map_map, Nat.zero_add] at hb
    obtain ⟨c, hc, rfl⟩ := Option.map_eq_some_iff.mp hb
    exact ⟨c, mem_characters_iff.mpr ⟨x, y, rfl, cs, hcs, hc⟩, rfl⟩
  · rintro ⟨c, hc, rfl⟩
    obtain ⟨x, y, rfl, cs, hcs, hc⟩ := mem_characters_iff.mp hc
    refine ⟨x, y, rfl, cs.zipIdx.map fun e => cell ⟨(e.2 : Nat), (y : Nat)⟩ e.1, ?_, ?_⟩
    · rw [getElem?_grid, hcs]
      rfl
    · rw [List.getElem?_map, List.getElem?_zipIdx, hc, Nat.zero_add]
      rfl

theorem placed_grid (lines : List (List Char)) : (grid lines).Placed := by
  intro p b hb
  obtain ⟨c, -, rfl⟩ := cell?_grid_eq_some_iff.mp hb
  rfl

theorem cells_grid (lines : List (List Char)) :
    (grid lines).cells = (characters lines).map fun e => cell e.1 e.2 := by
  rw [Grid.cells, grid, characters, List.map_flatMap, List.flatMap_def]
  simp only [List.map_map, Function.comp_def]

theorem nodup_characters (lines : List (List Char)) : ((characters lines).map Prod.fst).Nodup := by
  have hcells := (placed_grid lines).nodup
  rw [cells_grid, List.map_map] at hcells
  exact hcells

section
variable {g : Grid} (hplaced : g.Placed) (f : Cell → Char)
include hplaced

/-- Where each cell stores its place, places need not be counted: what is made of each written character and the place
    counted for it is made of the character and the place that its cell stores. -/
theorem zipIdx_map_map {α : Type} (make : Position → Char → α) :
    ((g.map (·.map f)).zipIdx.map fun (cs, (y : Nat)) => cs.zipIdx.map fun (c, (x : Nat)) => make ⟨x, y⟩ c) =
      g.map (·.map fun b => make b.position (f b)) := by
  refine List.ext_getElem? fun y => ?_
  rw [List.getElem?_map, List.getElem?_zipIdx, List.getElem?_map, List.getElem?_map, Option.map_map, Option.map_map,
    Nat.zero_add]
  refine Option.map_congr fun row hrow => List.ext_getElem? fun x => ?_
  change ((row.map f).zipIdx.map fun e => make ⟨(e.2 : Nat), (y : Nat)⟩ e.1)[x]? = _
  rw [List.getElem?_map, List.getElem?_zipIdx, List.getElem?_map, List.getElem?_map, Option.map_map, Option.map_map,
    Nat.zero_add]
  refine Option.map_congr fun b hb => ?_
  rw [hplaced _ b (Grid.cell?_eq_some_iff.mpr ⟨x, y, rfl, row, hrow, hb⟩)]
  rfl

theorem grid_map : grid (g.map (·.map f)) = g.map (·.map fun b => cell b.position (f b)) :=
  zipIdx_map_map hplaced f cell

theorem characters_map : characters (g.map (·.map f)) = g.cells.map fun b => (b.position, f b) := by
  rw [characters, List.flatMap_def, Grid.cells, List.map_flatten]
  exact congrArg List.flatten (zipIdx_map_map hplaced f Prod.mk)

end

theorem mem_marked_iff : p ∈ marked c lines ↔ (p, c) ∈ characters lines := by
  simp [marked]

theorem nodup_marked (c : Char) (lines : List (List Char)) : (marked c lines).Nodup :=
  (nodup_characters lines).sublist (List.filter_sublist.map _)

/-- The positions of a character are those that are stored by the cells it is written for. -/
theorem marked_map {g : Grid} (hplaced : g.Placed) (f : Cell → Char) (c : Char) :
    marked c (g.map (·.map f)) = (g.cells.filter (f · = c)).map (·.position) := by
  rw [marked, characters_map hplaced, List.filter_map, List.map_map]
  rfl

/-! ### The survey -/

theorem terrain?_eq_door_iff : terrain? c = some .door ↔ c = 'D' := by
  refine ⟨fun h => ?_, fun h => h ▸ rfl⟩
  unfold terrain? at h
  split at h <;> first | rfl | cases h

theorem terrain?_eq_energy_iff : terrain? c = some .energy ↔ c = 'E' := by
  refine ⟨fun h => ?_, fun h => h ▸ rfl⟩
  unfold terrain? at h
  split at h <;> first | rfl | cases h

theorem bind_eq_ok_iff {ε α β : Type} {x : Except ε α} {f : α → Except ε β} {b : β} :
    x >>= f = .ok b ↔ ∃ a, x = .ok a ∧ f a = .ok b := by
  cases x with
  | error e => exact ⟨nofun, nofun⟩
  | ok a => exact ⟨fun h => ⟨a, rfl, h⟩, fun ⟨_, ha, h⟩ => Except.ok.inj ha ▸ h⟩

theorem toList_eq_iff {α : Type} {o o' : Option α} : o.toList = o'.toList ↔ o = o' := by
  cases o <;> cases o' <;> simp

/-- What comes first in a list with room for one has room for one. -/
theorem exists_toList_of_append {α : Type} {l l' : List α} {o : Option α} (h : l ++ l' = o.toList) :
    ∃ first : Option α, l = first.toList := by
  match l, o with
  | [], _ => exact ⟨none, rfl⟩
  | [a], _ => exact ⟨some a, rfl⟩
  | _ :: _ :: _, none | _ :: _ :: _, some _ => cases h

/-- Taking note of a character adds its position to those found; there is room for one start and one door. -/
theorem note_eq_ok_iff {s s' : Survey} {e : Position × Char} : s.note e = .ok s' ↔
    (terrain? e.2).isSome = true ∧
      s.start.toList ++ (if e.2 = startMark then [e.1] else []) = s'.start.toList ∧
      s.door.toList ++ (if e.2 = 'D' then [e.1] else []) = s'.door.toList ∧
      s.energy ++ (if e.2 = 'E' then [e.1] else []) = s'.energy := by
  obtain ⟨p, c⟩ := e
  obtain ⟨start, door, energy⟩ := s
  obtain ⟨start', door', energy'⟩ := s'
  dsimp only
  rw [Survey.note]
  cases ht : terrain? c with
  | none => simp
  | some t =>
    have hdoor : t = .door ↔ c = 'D' := by rw [← terrain?_eq_door_iff, ht, Option.some.injEq]
    have henergy : t = .energy ↔ c = 'E' := by rw [← terrain?_eq_energy_iff, ht, Option.some.injEq]
    simp only [hdoor, henergy, Option.isSome_some, true_and]
    by_cases hs : c = startMark
    · subst hs
      cases start <;> cases start' <;> simp [startMark, toList_eq_iff]
    · by_cases hd : c = 'D'
      · subst hd
        cases door <;> cases door' <;> simp [startMark, toList_eq_iff]
      · by_cases he : c = 'E'
        · subst he
          simp [startMark, toList_eq_iff]
        · simp [hs, hd, he, toList_eq_iff]

/-- Surveying characters adds their positions to those found, and succeeds exactly if a survey has room for them all. -/
theorem foldlM_note_eq_ok_iff {s s' : Survey} {es : List (Position × Char)} : es.foldlM Survey.note s = .ok s' ↔
    (∀ e ∈ es, (terrain? e.2).isSome = true) ∧
      s.start.toList ++ (es.filter (·.2 = startMark)).map Prod.fst = s'.start.toList ∧
      s.door.toList ++ (es.filter (·.2 = 'D')).map Prod.fst = s'.door.toList ∧
      s.energy ++ (es.filter (·.2 = 'E')).map Prod.fst = s'.energy := by
  induction es generalizing s with
  | nil =>
    obtain ⟨start, door, energy⟩ := s
    obtain ⟨start', door', energy'⟩ := s'
    simp [pure, Except.pure, toList_eq_iff]
  | cons e es ih =>
    have hhead : ∀ c : Char, ((e :: es).filter (·.2 = c)).map Prod.fst =
        (if e.2 = c then [e.1] else []) ++ (es.filter (·.2 = c)).map Prod.fst := by
      intro c
      by_cases hc : e.2 = c <;> simp [hc]
    simp only [List.foldlM_cons, bind_eq_ok_iff, note_eq_ok_iff, ih, hhead, List.forall_mem_cons]
    constructor
    · rintro ⟨mid, ⟨hsome, hstart, hdoor, henergy⟩, hrest, hstart', hdoor', henergy'⟩
      simp only [← List.append_assoc, hstart, hdoor, henergy]
      exact ⟨⟨hsome, hrest⟩, hstart', hdoor', henergy'⟩
    · -- What is found in the end leaves no room for more than one start and door on the way.
      simp only [← List.append_assoc]
      rintro ⟨⟨hsome, hrest⟩, hstart, hdoor, henergy⟩
      obtain ⟨start, hmidStart⟩ := exists_toList_of_append hstart
      obtain ⟨door, hmidDoor⟩ := exists_toList_of_append hdoor
      refine ⟨⟨start, door, _⟩, ⟨hsome, hmidStart, hmidDoor, rfl⟩, hrest, ?_, ?_, henergy⟩
      · rw [← hmidStart, hstart]
      · rw [← hmidDoor, hdoor]

theorem survey_eq_ok_iff {s : Survey} : survey lines = .ok s ↔ Legible lines ∧ marked startMark lines = s.start.toList ∧
    marked 'D' lines = s.door.toList ∧ marked 'E' lines = s.energy :=
  foldlM_note_eq_ok_iff

/-! ### The level of a layout -/

/-- A layout makes a level exactly if its characters are legible, it has one start and one door, and what it lays out is
    a level. -/
theorem level_eq_ok_iff {heading : Heading} {l : Level} : level lines heading = .ok l ↔
    ∃ start door, Legible lines ∧ marked startMark lines = [start] ∧ marked 'D' lines = [door] ∧ l.toLevelDraft = {
      number := heading.number
      grid := grid lines
      start
      door
      energy := marked 'E' lines
      requiredEnergy := min heading.number Level.maxEnergy
      allowsLoops := heading.allowsLoops
      timeLimit := heading.timeLimit
      hasGuide := lines.any (·.contains guideMark)
      name := heading.name } := by
  rw [level, bind_eq_ok_iff]
  constructor
  · rintro ⟨s, hs, h⟩
    obtain ⟨hlegible, hstart, hdoor, henergy⟩ := survey_eq_ok_iff.mp hs
    split at h
    · cases h
    · cases h
    · rename_i start door energy
      refine ⟨start, door, hlegible, hstart, hdoor, ?_⟩
      rw [Level.ofDraft_eq_ok_iff.mp h, henergy]
  · rintro ⟨start, door, hlegible, hstart, hdoor, hdraft⟩
    refine ⟨⟨some start, some door, marked 'E' lines⟩, survey_eq_ok_iff.mpr ⟨hlegible, hstart, hdoor, rfl⟩, ?_⟩
    exact Level.ofDraft_eq_ok_iff.mpr hdraft

end
end GridWalk.Layout
