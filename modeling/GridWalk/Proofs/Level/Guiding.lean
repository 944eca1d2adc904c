import GridWalk.Proofs.Level.Generated

/-! The guide paths of generated levels. Up to level five there is an energy cell, and the path has two legs: from the
    start to the first energy cell, and from there to the door. Its positions are marked after everything was drawn, so
    the marks change nothing else. -/

namespace GridWalk

namespace Grid
variable {g : Grid} {p : Position}

/-- A guide path runs over a position. -/
def Guided (g : Grid) (p : Position) : Prop := ∃ c, g.cell? p = some c ∧ c.onGuide = true

/-- The grid with its guide path taken off the cells. -/
def unmarked (g : Grid) : Grid := g.map (·.map fun c => { c with onGuide := false })

theorem terrain?_unmarked : g.unmarked.terrain? p = g.terrain? p := terrain?_map fun _ => rfl

theorem not_guided_unmarked : ¬g.unmarked.Guided p := by
  rintro ⟨c, hc, hguide⟩
  rw [unmarked, cell?_map, Option.map_eq_some_iff] at hc
  obtain ⟨c, -, rfl⟩ := hc
  cases hguide

end Grid

/-- The level with its guide path taken off the cells. -/
def Level.unmarked (l : Level) : Level where
  toLevelDraft := { l.toLevelDraft with grid := l.grid.unmarked }
  width_pos := Nat.lt_of_lt_of_eq l.width_pos Grid.width_map.symm
  rectangular row hrow := by
    obtain ⟨cells, hcells, rfl⟩ := List.mem_map.mp hrow
    rw [List.length_map]
    exact (l.rectangular cells hcells).trans Grid.width_map.symm
  start_mem := Grid.contains_map.trans l.start_mem
  door_terrain := Grid.terrain?_unmarked.trans l.door_terrain
  energy_terrain p hp := Grid.terrain?_unmarked.trans (l.energy_terrain p hp)

theorem Level.toLevelDraft_unmarked {l : Level} :
    l.unmarked.toLevelDraft = { l.toLevelDraft with grid := l.grid.unmarked } := rfl

namespace Generator
open GridWalk.Random Guide

variable {σ : Type} {source : DrawSource σ} {maxDraws : Nat} {size number : Int} {s s' : σ} {l : Level}
  {marks : Nat → List Position → List Position} {energy : List Position} {placed : Obstacles} {p : Position}

/-! ### Marks -/

/-- Generates a level as `generateWithin` does, with a guide path that may be another one. -/
def generateMarking (marks : Nat → List Position → List Position) (maxDraws : Nat) (source : DrawSource σ)
    (size number : Int) : Drawing σ Level := do
  if size < minSize then throw .sizeTooSmall
  let size := size.toNat
  let energy ← scatterEnergy source size (energyCount number size) maxDraws []
  let kinds ← (obstacleKinds number).mapError LoadError.number
  let placed ← dropObstacles source size energy kinds []
  (Level.ofDraft { draft number size energy placed with grid := grid size energy placed (marks size energy) }).mapError
    LoadError.level

theorem generateMarking_guide :
    generateMarking (guide number) maxDraws source size number = generateWithin maxDraws source size number := rfl

/-- What is drawn for a level, whatever its guide path. -/
structure Drawn (source : DrawSource σ) (maxDraws : Nat) (size number : Int) (s s' : σ) (energy : List Position)
    (placed : Obstacles) : Prop where
  large : minSize ≤ size
  drawings : ∃ between kinds,
    scatterEnergy source size.toNat (energyCount number size.toNat) maxDraws [] s = .ok (energy, between) ∧
      obstacleKinds number = .ok kinds ∧ dropObstacles source size.toNat energy kinds [] between = .ok (placed, s')

/-- A level is generated just where everything is drawn for it, and its guide path is marked then. -/
theorem generateMarking_eq_ok_iff : generateMarking marks maxDraws source size number s = .ok (l, s') ↔
    ∃ energy placed, Drawn source maxDraws size number s s' energy placed ∧
      l.toLevelDraft = { draft number size.toNat energy placed with
        grid := grid size.toNat energy placed (marks size.toNat energy) } := by
  rw [generateMarking]
  split
  · rename_i hsmall
    refine iff_of_false (fun h => ?_) fun ⟨_, _, hdrawn, _⟩ => absurd hdrawn.large (Int.not_le.mpr hsmall)
    obtain ⟨_, _, hthrown, -⟩ := bind_eq_ok_iff.mp h
    cases hthrown
  · rename_i hlarge
    simp only [bind_eq_ok_iff, liftM_mapError_eq_ok_iff, Level.ofDraft_eq_ok_iff]
    constructor
    · rintro ⟨energy, between, henergy, kinds, _, ⟨hkinds, rfl⟩, placed, _, hplaced, hdraft, rfl⟩
      exact ⟨energy, placed, ⟨Int.not_lt.mp hlarge, between, kinds, henergy, hkinds, hplaced⟩, hdraft⟩
    · rintro ⟨energy, placed, ⟨-, between, kinds, henergy, hkinds, hplaced⟩, hdraft⟩
      exact ⟨energy, between, henergy, kinds, between, ⟨hkinds, rfl⟩, placed, s', hplaced, hdraft, rfl⟩

theorem Drawn.minSize_le (h : Drawn source maxDraws size number s s' energy placed) : minSize ≤ size.toNat := by
  have := h.large
  omega

theorem Drawn.scattered (h : Drawn source maxDraws size number s s' energy placed) :
    Scattered size.toNat energy ∧ energy.length = energyCount number size.toNat := by
  obtain ⟨between, kinds, henergy, -, -⟩ := h.drawings
  have hfails : Fails number size .outOfDraws := .outOfDraws
  exact (scatterEnergy_gives source hfails h.minSize_le .nil (Nat.zero_le _) s).2 _ _ henergy

theorem energyCount_pos {size : Nat} (hsize : minSize ≤ size) (hpos : 1 ≤ number) : 0 < energyCount number size := by
  have hside : 0 < size - 2 := by
    unfold minSize at hsize
    omega
  have hroom : 0 < (size - 2) * (size - 2) := Nat.mul_pos hside hside
  unfold energyCount Level.maxEnergy
  omega

/-! ### The path -/

theorem guided_grid_iff {size : Nat} {guide : List Position} :
    (grid size energy placed guide).Guided p ↔ OnSquare size p ∧ p ∈ guide := by
  simp only [Grid.Guided, cell?_grid_eq_some_iff]
  constructor
  · rintro ⟨c, ⟨hp, rfl⟩, hguide⟩
    exact ⟨hp, List.contains_iff_mem.mp hguide⟩
  · rintro ⟨hp, hguide⟩
    exact ⟨_, ⟨hp, rfl⟩, List.contains_iff_mem.mpr hguide⟩

theorem unmarked_grid {size : Nat} {guide : List Position} :
    (grid size energy placed guide).unmarked = grid size energy placed [] := by
  rw [Grid.unmarked, grid, grid, List.map_map]
  refine List.map_congr_left fun y _ => ?_
  rw [Function.comp_apply, List.map_map]
  rfl

theorem contains_grid_iff {size : Nat} {guide : List Position} (hsize : 0 < size) :
    (grid size energy placed guide).contains p = true ↔ OnSquare size p := by
  rw [Grid.contains_iff, width_grid hsize, height_grid, OnSquare]

theorem onSquare_of_mem_path {size : Nat} {a b : Position} (ha : OnSquare size a) (hb : OnSquare size b)
    (hp : p ∈ path a b) : OnSquare size p := by
  have := between_of_mem_path hp
  unfold OnSquare at *
  omega

/-- A guide path over a position: the marked cells are those that two legs lead over, one from the start to the position
    and one from there to the door. -/
structure Guides (l : Level) (e : Position) (path : List Position) : Prop where
  legs : ∃ first second, path = first ++ second ∧ Leg l.start e first ∧ first.getLast? = some e ∧
    Leg e l.door second ∧ second.getLast? = some l.door
  leads : Leads l.start l.door path
  inside : ∀ p ∈ path, l.contains p = true
  guided : ∀ p, l.grid.Guided p ↔ p ∈ path

section
variable {size : Nat} (hsize : minSize ≤ size) (henergy : Scattered size energy)
  (hl : l.toLevelDraft = draft number size energy placed)
include hl

theorem guided_iff_of_draft : l.grid.Guided p ↔ OnSquare size p ∧ p ∈ guide number size energy := by
  rw [congrArg LevelDraft.grid hl]
  exact guided_grid_iff

theorem not_guided_of_late (hnumber : 5 < number) : ¬l.grid.Guided p := by
  have hguide : guide number size energy = [] := if_pos (by simp [Level.hasGuideAt, hnumber])
  rw [guided_iff_of_draft hl, hguide]
  exact fun hp => List.not_mem_nil hp.2

include henergy

theorem not_guided_start : ¬l.grid.Guided l.start := by
  rw [guided_iff_of_draft hl, congrArg LevelDraft.start hl]
  exact fun hp => start_notMem_guide henergy hp.2

include hsize

theorem exists_guides (hpos : 1 ≤ number) (hearly : number ≤ 5) (hcount : energy.length = energyCount number size) :
    ∃ e path, l.energy.head? = some e ∧ Guides l e path := by
  have hsizePos : 0 < size := Nat.lt_of_lt_of_le (by decide : 0 < minSize) hsize
  obtain ⟨e, rest, rfl⟩ := List.exists_cons_of_length_pos (hcount ▸ energyCount_pos hsize hpos)
  have he : e ∈ e :: rest := List.mem_cons_self
  have hguide : guide number size (e :: rest) = path (start size) e ++ path e (door size) :=
    if_neg (by simp [Level.hasGuideAt, hearly])
  have hinside : ∀ p ∈ path (start size) e ++ path e (door size), OnSquare size p := by
    intro p hp
    rcases List.mem_append.mp hp with hp | hp
    · exact onSquare_of_mem_path (start_onSquare hsizePos) (henergy.onSquare he) hp
    · exact onSquare_of_mem_path (henergy.onSquare he) (door_onSquare hsizePos) hp
  have hstart : l.start = start size := congrArg LevelDraft.start hl
  have hdoor : l.door = door size := congrArg LevelDraft.door hl
  have hfirst := leg_path (start size) e
  have hsecond := leg_path e (door size)
  refine ⟨e, path (start size) e ++ path e (door size), ?_, ?_⟩
  · rw [congrArg LevelDraft.energy hl]
    rfl
  · exact {
      legs := by
        rw [hstart, hdoor]
        exact ⟨_, _, rfl, hfirst, hfirst.leads.getLast? (henergy.ne_start he).symm, hsecond,
          hsecond.leads.getLast? (henergy.ne_door he)⟩
      leads := by
        rw [hstart, hdoor]
        exact hfirst.leads.append hsecond.leads
      inside := fun p hp => by
        rw [Level.contains, congrArg LevelDraft.grid hl]
        exact (contains_grid_iff hsizePos).mpr (hinside p hp)
      guided := fun p => by
        rw [guided_iff_of_draft hl, hguide]
        exact ⟨And.right, fun hp => ⟨hinside p hp, hp⟩⟩ }

end

/-- Whatever is drawn, the guide path of a generated level of the first five leads from the start over the first energy cell
    to the door, and later levels have none. It does not run over the start, and what is generated without it has the same
    terrain. -/
theorem generated_guide_leads (h : generateWithin maxDraws source size number s = .ok (l, s')) :
    (5 < number → ∀ p, ¬l.grid.Guided p) ∧
    (1 ≤ number → number ≤ 5 → ∃ e path, l.energy.head? = some e ∧ Guides l e path) ∧
    ¬l.grid.Guided l.start ∧
    ∃ bare, generateMarking (fun _ _ => []) maxDraws source size number s = .ok (bare, s') ∧
      (∀ p, ¬bare.grid.Guided p) ∧ ∀ p, l.terrain? p = bare.terrain? p := by
  rw [← generateMarking_guide] at h
  obtain ⟨energy, placed, hdrawn, hdraft⟩ := generateMarking_eq_ok_iff.mp h
  obtain ⟨henergy, hcount⟩ := hdrawn.scattered
  refine ⟨fun hlate p => not_guided_of_late hdraft hlate, fun hpos hearly => ?_, ?_, l.unmarked, ?_, ?_, ?_⟩
  · exact exists_guides hdrawn.minSize_le henergy hdraft hpos hearly hcount
  · exact not_guided_start henergy hdraft
  · refine generateMarking_eq_ok_iff.mpr ⟨energy, placed, hdrawn, ?_⟩
    rw [Level.toLevelDraft_unmarked, hdraft, unmarked_grid]
  · exact fun p => Grid.not_guided_unmarked
  · exact fun p => Grid.terrain?_unmarked.symm

theorem cornered_guide_leads : ∃ l s, cornered = .ok (l, s) ∧
    (∃ e path, l.energy.head? = some e ∧ Guides l e path) ∧ ¬l.grid.Guided l.start ∧
    ∃ bare, generateMarking (fun _ _ => []) 1 (replaying [0, 0, 0, 1, 1, 2]) 3 1 0 = .ok (bare, s) ∧
      (∀ p, ¬bare.grid.Guided p) ∧ ∀ p, l.terrain? p = bare.terrain? p := by
  obtain ⟨l, s, h⟩ := exists_cornered
  obtain ⟨-, hearly, hstart, hbare⟩ := generated_guide_leads h
  exact ⟨l, s, h, hearly (by decide) (by decide), hstart, hbare⟩

end Generator
end GridWalk
