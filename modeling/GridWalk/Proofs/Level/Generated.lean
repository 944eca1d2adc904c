import GridWalk.Proofs.Level.Cells
import GridWalk.Proofs.Level.Guide
import GridWalk.Proofs.Level.Scattering
import GridWalk.Proofs.Number.Rounding

/-! Generated levels are well formed, whatever is drawn. What was scattered over the square is read off its grid again:
    the door and the start in their corners, each energy cell, and at most the obstacles that were to drop. -/

namespace GridWalk.Generator
open GridWalk.Random

/-! ### The grid of what was placed -/

section
variable {number : Int} {size : Nat} {energy : List Position} {placed : Obstacles} {guide : List Position}
  {p : Position}

theorem getElem?_map_range_eq_some_iff {α : Type} {f : Nat → α} {n i : Nat} {a : α} :
    ((List.range n).map f)[i]? = some a ↔ i < n ∧ a = f i := by
  rw [List.getElem?_eq_some_iff]
  simp only [List.length_map, List.length_range, List.getElem_map, List.getElem_range, exists_prop, eq_comm]

theorem cell?_grid_eq_some_iff {c : Cell} : (grid size energy placed guide).cell? p = some c ↔
    OnSquare size p ∧ c = ⟨p, terrainAt size energy placed p, guide.contains p⟩ := by
  rw [Grid.cell?_eq_some_iff]
  constructor
  · rintro ⟨x, y, rfl, row, hrow, hcell⟩
    obtain ⟨hy, rfl⟩ := getElem?_map_range_eq_some_iff.mp hrow
    obtain ⟨hx, rfl⟩ := getElem?_map_range_eq_some_iff.mp hcell
    exact ⟨⟨Int.natCast_nonneg x, Int.ofNat_lt.mpr hx, Int.natCast_nonneg y, Int.ofNat_lt.mpr hy⟩, rfl⟩
  · obtain ⟨px, py⟩ := p
    rintro ⟨⟨hx, hxlt, hy, hylt⟩, rfl⟩
    obtain ⟨x, rfl⟩ := Int.eq_ofNat_of_zero_le hx
    obtain ⟨y, rfl⟩ := Int.eq_ofNat_of_zero_le hy
    exact ⟨x, y, rfl, _, getElem?_map_range_eq_some_iff.mpr ⟨Int.ofNat_lt.mp hylt, rfl⟩,
      getElem?_map_range_eq_some_iff.mpr ⟨Int.ofNat_lt.mp hxlt, rfl⟩⟩

theorem terrain?_grid_eq_some_iff {t : Terrain} : (grid size energy placed guide).terrain? p = some t ↔
    OnSquare size p ∧ terrainAt size energy placed p = t := by
  rw [Grid.terrain?_eq_some_iff]
  constructor
  · rintro ⟨c, hc, rfl⟩
    obtain ⟨hp, rfl⟩ := cell?_grid_eq_some_iff.mp hc
    exact ⟨hp, rfl⟩
  · rintro ⟨hp, rfl⟩
    exact ⟨_, cell?_grid_eq_some_iff.mpr ⟨hp, rfl⟩, rfl⟩

theorem placed_grid : (grid size energy placed guide).Placed := by
  intro p c hc
  rw [(cell?_grid_eq_some_iff.mp hc).2]

theorem height_grid : (grid size energy placed guide).height = size := by
  rw [Grid.height, grid, List.length_map, List.length_range]

theorem width_grid (hsize : 0 < size) : (grid size energy placed guide).width = size := by
  rw [Grid.width, grid, List.head?_map, List.head?_range, if_neg (Nat.ne_of_gt hsize)]
  simp only [Option.map_some, Option.getD_some, List.length_map, List.length_range]

theorem length_of_mem_grid {row : List Cell} (h : row ∈ grid size energy placed guide) : row.length = size := by
  obtain ⟨y, -, rfl⟩ := List.mem_map.mp h
  rw [List.length_map, List.length_range]

theorem start_onSquare (hsize : 0 < size) : OnSquare size (start size) := by
  simp only [OnSquare, start]
  omega

theorem door_onSquare (hsize : 0 < size) : OnSquare size (door size) := by
  simp only [OnSquare, door]
  omega

/-- What lies on a position. -/
inductive Lies (size : Nat) (energy : List Position) (placed : Obstacles) (p : Position) : Terrain → Prop
  | door (hdoor : p = door size) : Lies size energy placed p .door
  | energy (hdoor : p ≠ door size) (henergy : p ∈ energy) : Lies size energy placed p .energy
  | obstacle {t : Terrain} (hdoor : p ≠ door size) (henergy : p ∉ energy) (hplaced : (p, t) ∈ placed) :
      Lies size energy placed p t
  | nothing (hdoor : p ≠ door size) (henergy : p ∉ energy) : Lies size energy placed p .safe

theorem lies_terrainAt (size : Nat) (energy : List Position) (placed : Obstacles) (p : Position) :
    Lies size energy placed p (terrainAt size energy placed p) := by
  rw [terrainAt]
  split
  · rename_i hdoor
    exact .door hdoor
  · rename_i hdoor
    split
    · rename_i henergy
      exact .energy hdoor (List.contains_iff_mem.mp henergy)
    · rename_i henergy
      have hnot : p ∉ energy := fun hp => henergy (List.contains_iff_mem.mpr hp)
      split
      · rename_i o ho
        have hsame : decide (o.1 = p) = true := List.find?_some (p := fun o : Position × Terrain => o.1 = p) ho
        obtain rfl := of_decide_eq_true hsame
        exact .obstacle hdoor hnot (List.mem_of_find?_eq_some ho)
      · exact .nothing hdoor hnot

/-- Obstacles to drop are voids and snakes. -/
def AreObstacles (placed : Obstacles) : Prop := ∀ o ∈ placed, o.2 = .void ∨ o.2 = .snake

theorem terrainAt_eq_door_iff (hkinds : AreObstacles placed) :
    terrainAt size energy placed p = .door ↔ p = door size := by
  refine ⟨fun h => ?_, fun h => if_pos h⟩
  have hlies := lies_terrainAt size energy placed p
  rw [h] at hlies
  cases hlies with
  | door hdoor => exact hdoor
  | obstacle _ _ hplaced => rcases hkinds _ hplaced with h | h <;> cases h

theorem terrainAt_eq_energy_iff (hkinds : AreObstacles placed) (henergy : Scattered size energy) :
    terrainAt size energy placed p = .energy ↔ p ∈ energy := by
  have hlies := lies_terrainAt size energy placed p
  constructor
  · intro h
    rw [h] at hlies
    cases hlies with
    | energy _ hp => exact hp
    | obstacle _ _ hplaced => rcases hkinds _ hplaced with h | h <;> cases h
  · intro hp
    generalize terrainAt size energy placed p = t at hlies
    cases hlies with
    | door hdoor => exact absurd hdoor (henergy.ne_door hp)
    | energy => rfl
    | obstacle _ hnot | nothing _ hnot => exact absurd hp hnot

theorem mem_placed_of_terrainAt {t : Terrain} (ht : t = .void ∨ t = .snake) (h : terrainAt size energy placed p = t) :
    (p, t) ∈ placed := by
  have hlies := lies_terrainAt size energy placed p
  rw [h] at hlies
  cases hlies with
  | obstacle _ _ hplaced => exact hplaced
  | door | energy | nothing => rcases ht with ht | ht <;> cases ht

theorem terrainAt_start (hsize : minSize ≤ size) (henergy : Scattered size energy) (hplaced : Dropped size energy placed) :
    terrainAt size energy placed (start size) = .safe := by
  have hlies := lies_terrainAt size energy placed (start size)
  generalize terrainAt size energy placed (start size) = t at hlies
  cases hlies with
  | door hdoor =>
    have hx : (0 : Int) = size - 1 := congrArg Position.x hdoor
    unfold minSize at hsize
    omega
  | energy _ hp => exact absurd rfl (henergy.ne_start hp)
  | obstacle _ _ hp => exact absurd rfl (hplaced.free (List.mem_map.mpr ⟨_, hp, rfl⟩)).ne_start
  | nothing => rfl

theorem start_notMem_guide (henergy : Scattered size energy) : start size ∉ Generator.guide number size energy := by
  unfold Generator.guide
  split
  · exact List.not_mem_nil
  · cases energy with
    | nil => exact Guide.start_notMem_path _ _
    | cons first rest =>
      have hfirst := henergy.inside first List.mem_cons_self
      refine fun h => (List.mem_append.mp h).elim (Guide.start_notMem_path _ _) fun hsecond => ?_
      rw [Guide.mem_path_iff, Guide.mem_stretch_iff, Guide.mem_stretch_iff] at hsecond
      simp only [start, door] at hsecond
      omega

/-- There are at most as many cells with voids or snakes as dropped. -/
theorem count_grid_le {t : Terrain} (ht : t = .void ∨ t = .snake) :
    (grid size energy placed guide).count t ≤ (placed.map Prod.snd).count t := by
  have hall : ∀ p, (grid size energy placed guide).terrain? p = some t → p ∈ (placed.filter (·.2 = t)).map Prod.fst := by
    intro p hp
    have hmem := mem_placed_of_terrainAt ht (terrain?_grid_eq_some_iff.mp hp).2
    exact List.mem_map.mpr ⟨(p, t), List.mem_filter.mpr ⟨hmem, decide_eq_true rfl⟩, rfl⟩
  have hcount := placed_grid.count_le hall
  rw [List.length_map, ← List.countP_eq_length_filter] at hcount
  rw [List.count, List.countP_map]
  exact hcount

end

/-! ### The obstacles to drop -/

theorem obstacleKinds_eq_ok {number : Int} {kinds : List Terrain} (h : obstacleKinds number = .ok kinds) :
    ∃ obstacles voids, obstacleCount number = .ok obstacles ∧ voidCount obstacles = .ok voids ∧
      kinds = List.replicate (min voids obstacles).toNat .void ++
        List.replicate (obstacles.toNat - (min voids obstacles).toNat) .snake := by
  unfold obstacleKinds at h
  cases hobstacles : obstacleCount number with
  | error e =>
    rw [hobstacles] at h
    cases h
  | ok obstacles =>
    rw [hobstacles] at h
    cases hvoids : voidCount obstacles with
    | error e =>
      simp only [bind, Except.bind, hvoids] at h
      cases h
    | ok voids =>
      simp only [bind, Except.bind, hvoids] at h
      exact ⟨obstacles, voids, rfl, hvoids, (Except.ok.inj h).symm⟩

/-- A level of number eight has twenty obstacles, of which twelve are voids. -/
example : obstacleCount 8 = .ok 20 ∧ voidCount 20 = .ok 12 := by decide +kernel

/-- As many obstacles as the number of a level allows: so many in all, of which so many are voids and the others are
    snakes. -/
structure Allowed (number : Int) (g : Grid) : Prop where
  counts : ∃ obstacles voids, obstacleCount number = .ok obstacles ∧ voidCount obstacles = .ok voids ∧
    (g.count .void + g.count .snake : Int) ≤ max 0 obstacles ∧ (g.count .void : Int) ≤ max 0 voids ∧
    (g.count .snake : Int) ≤ max 0 (obstacles - voids)
  none_of_nonpos : number ≤ 0 → g.count .void = 0 ∧ g.count .snake = 0

theorem allowed_of_kinds {number : Int} {kinds : List Terrain} {g : Grid} (hkinds : obstacleKinds number = .ok kinds)
    (hvoid : g.count .void ≤ kinds.count .void) (hsnake : g.count .snake ≤ kinds.count .snake) : Allowed number g := by
  obtain ⟨obstacles, voids, hobstacles, hvoids, rfl⟩ := obstacleKinds_eq_ok hkinds
  simp only [List.count_append, List.count_replicate, beq_iff_eq, reduceCtorEq, if_true, if_false, Nat.add_zero,
    Nat.zero_add] at hvoid hsnake
  refine ⟨⟨obstacles, voids, hobstacles, hvoids, ?_, ?_, ?_⟩, fun hnumber => ?_⟩
  · omega
  · omega
  · omega
  · have := obstacleCount_nonpos hnumber hobstacles
    omega

/-! ### Levels -/

/-- A level of a number on a square: the start and the door in their corners, energy cells off the border, obstacles as
    the number allows, and everything else safe. A guide path does not run over the start. -/
structure Laid (number size : Int) (l : Level) : Prop where
  width : (l.width : Int) = size
  height : (l.height : Int) = size
  start : l.start = ⟨0, size - 1⟩
  door : l.door = ⟨size - 1, 0⟩
  start_safe : l.terrain? l.start = some .safe
  start_unguided : ∀ c, l.grid.cell? l.start = some c → c.onGuide = false
  door_only : ∀ p, l.terrain? p = some .door ↔ p = l.door
  energy_only : ∀ p, l.terrain? p = some .energy ↔ p ∈ l.energy
  energy_nodup : l.energy.Nodup
  energy_inside : ∀ p ∈ l.energy, 0 < p.x ∧ p.x < size - 1 ∧ 0 < p.y ∧ p.y < size - 1
  energy_count : (l.energy.length : Int) = max 0 (min (min number 3) ((size - 2) * (size - 2)))
  obstacles : Allowed number l.grid
  rest_safe : ∀ p, l.contains p = true → p ≠ l.door → p ∉ l.energy → l.terrain? p ≠ some .void →
    l.terrain? p ≠ some .snake → l.terrain? p = some .safe
  placed : l.grid.Placed

/-- The failures that leave no level: the square is too small, the obstacles of the number cannot be counted, or the
    draws run out. -/
inductive Fails (number size : Int) : LoadError → Prop
  | sizeTooSmall (h : size < minSize) : Fails number size .sizeTooSmall
  | number {e : NumberError} (h : obstacleKinds number = .error e) : Fails number size (.number e)
  | outOfDraws : Fails number size .outOfDraws

section
variable {number : Int} {size : Nat} {energy : List Position} {placed : Obstacles}

theorem energyCount_eq (hsize : minSize ≤ size) :
    (energyCount number size : Int) = max 0 (min (min number 3) (((size : Int) - 2) * (size - 2))) := by
  have hside : ((size - 2 : Nat) : Int) = (size : Int) - 2 := by
    unfold minSize at hsize
    omega
  rw [energyCount, Int.toNat_eq_max, max_comm, Int.natCast_mul, hside]
  rfl

theorem laid_of_draft {l : Level} (hl : l.toLevelDraft = draft number size energy placed) (hsize : minSize ≤ size)
    (henergy : Scattered size energy) (hcount : energy.length = energyCount number size)
    (hplaced : Dropped size energy placed) (hkinds : AreObstacles placed) (hallowed : Allowed number l.grid) :
    Laid number size l := by
  have hgrid : l.grid = grid size energy placed (guide number size energy) := congrArg LevelDraft.grid hl
  have hstart : l.start = start size := congrArg LevelDraft.start hl
  have hdoor : l.door = door size := congrArg LevelDraft.door hl
  have henergies : l.energy = energy := congrArg LevelDraft.energy hl
  have hterrain : ∀ {p t}, l.terrain? p = some t ↔ OnSquare size p ∧ terrainAt size energy placed p = t := by
    intro p t
    rw [Level.terrain?, hgrid]
    exact terrain?_grid_eq_some_iff
  have hpos : 0 < size := Nat.lt_of_lt_of_le (by decide : 0 < minSize) hsize
  have hheight : l.height = size := by
    rw [Level.height, hgrid, height_grid]
  have hwidth : l.width = size := by
    rw [Level.width, hgrid, width_grid hpos]
  have hdoorOnly : ∀ p, l.terrain? p = some .door ↔ p = l.door := fun p => by
    rw [hterrain, terrainAt_eq_door_iff hkinds, hdoor]
    exact ⟨And.right, fun hp => ⟨hp ▸ door_onSquare hpos, hp⟩⟩
  have henergyOnly : ∀ p, l.terrain? p = some .energy ↔ p ∈ l.energy := fun p => by
    rw [hterrain, terrainAt_eq_energy_iff hkinds henergy, henergies]
    exact ⟨And.right, fun hp => ⟨henergy.onSquare hp, hp⟩⟩
  exact {
    width := congrArg _ hwidth
    height := congrArg _ hheight
    start := hstart
    door := hdoor
    start_safe := by
      rw [hstart]
      exact hterrain.mpr ⟨start_onSquare hpos, terrainAt_start hsize henergy hplaced⟩
    start_unguided := fun c hc => by
      rw [hgrid, hstart] at hc
      rw [(cell?_grid_eq_some_iff.mp hc).2]
      exact Bool.eq_false_iff.mpr fun h => start_notMem_guide henergy (List.contains_iff_mem.mp h)
    door_only := hdoorOnly
    energy_only := henergyOnly
    energy_nodup := henergies ▸ henergy.nodup
    energy_inside := henergies ▸ henergy.inside
    energy_count := by
      rw [henergies, hcount]
      exact energyCount_eq hsize
    obstacles := hallowed
    rest_safe := fun p hp hnotDoor hnotEnergy hvoid hsnake => by
      obtain ⟨t, ht⟩ := Option.isSome_iff_exists.mp (Level.terrain?_isSome_iff.mpr hp)
      cases t with
      | safe => exact ht
      | energy => exact absurd ((henergyOnly p).mp ht) hnotEnergy
      | void => exact absurd ht hvoid
      | snake => exact absurd ht hsnake
      | door => exact absurd ((hdoorOnly p).mp ht) hnotDoor
    placed := by
      rw [hgrid]
      exact placed_grid }

/-- What was scattered makes a level. -/
theorem exists_level (number : Int) (hsize : minSize ≤ size) (henergy : Scattered size energy)
    (hkinds : AreObstacles placed) : ∃ l, Level.ofDraft (draft number size energy placed) = .ok l := by
  have hpos : 0 < size := Nat.lt_of_lt_of_le (by decide : 0 < minSize) hsize
  let l : Level := {
    toLevelDraft := draft number size energy placed
    width_pos := by
      rw [draft, width_grid hpos]
      exact hpos
    rectangular := fun row hrow => (length_of_mem_grid hrow).trans (width_grid hpos).symm
    start_mem := by
      rw [Grid.contains_iff, draft, width_grid hpos, height_grid]
      exact start_onSquare hpos
    door_terrain := terrain?_grid_eq_some_iff.mpr ⟨door_onSquare hpos, (terrainAt_eq_door_iff hkinds).mpr rfl⟩
    energy_terrain := fun p hp =>
      terrain?_grid_eq_some_iff.mpr ⟨henergy.onSquare hp, (terrainAt_eq_energy_iff hkinds henergy).mpr hp⟩ }
  exact ⟨l, Level.ofDraft_eq_ok_iff.mpr rfl⟩

end

/-- Of the obstacles that were to drop some dropped. -/
theorem areObstacles_of_kinds {number : Int} {kinds dropped : List Terrain} {placed : Obstacles}
    (hkinds : obstacleKinds number = .ok kinds) (hsub : dropped.Sublist kinds)
    (hplaced : placed.map Prod.snd = dropped.reverse) : AreObstacles placed := by
  obtain ⟨obstacles, voids, -, -, rfl⟩ := obstacleKinds_eq_ok hkinds
  intro o ho
  have hmem : o.2 ∈ dropped.reverse := hplaced ▸ List.mem_map.mpr ⟨o, ho, rfl⟩
  rcases List.mem_append.mp (hsub.subset (List.mem_reverse.mp hmem)) with h | h
  · exact .inl (List.eq_of_mem_replicate h)
  · exact .inr (List.eq_of_mem_replicate h)

theorem count_le_of_sublist {t : Terrain} {kinds dropped : List Terrain} {placed : Obstacles} (hsub : dropped.Sublist kinds)
    (hplaced : placed.map Prod.snd = dropped.reverse) : (placed.map Prod.snd).count t ≤ kinds.count t := by
  rw [hplaced, List.count_reverse]
  exact hsub.count_le t

/-- Generating fails as it may, or gives a level that is laid out for its number and size. -/
theorem generateWithin_gives {σ : Type} (maxDraws : Nat) (source : DrawSource σ) (size number : Int) :
    Gives (Fails number size) (generateWithin maxDraws source size number) (Laid number size) := by
  rw [generateWithin]
  split
  · rename_i hsmall
    exact .bind (P := fun _ => False) (.throw (.sizeTooSmall hsmall)) fun _ h => h.elim
  · rename_i hlarge
    obtain ⟨size, rfl⟩ := Int.eq_ofNat_of_zero_le (Int.le_trans (Int.natCast_nonneg minSize) (Int.not_lt.mp hlarge))
    have hsize : minSize ≤ size := Int.ofNat_le.mp (Int.not_lt.mp hlarge)
    simp only [Int.toNat_natCast]
    -- The parts in turn: the energy cells, what obstacles to drop, those that dropped, and the check of the draft.
    refine .bind (scatterEnergy_gives source .outOfDraws hsize .nil (Nat.zero_le _)) ?_
    rintro energy ⟨henergy, hcount⟩
    refine .bind (.ofExcept (fun e he => .number he) fun kinds hkinds => hkinds) fun kinds hkinds => ?_
    refine .bind (dropObstacles_gives source .outOfDraws (Nat.lt_of_lt_of_le (by decide) hsize) .nil) ?_
    rintro placed ⟨hplaced, dropped, hsub, hdropped⟩
    rw [List.map_nil, List.append_nil] at hdropped
    have hobstacles := areObstacles_of_kinds hkinds hsub hdropped
    obtain ⟨l, hl⟩ := exists_level number hsize henergy hobstacles
    refine .ofExcept (fun e he => ?_) fun l' hl' => ?_
    · rw [hl] at he
      cases he
    · have hdraft := Level.ofDraft_eq_ok_iff.mp hl'
      refine laid_of_draft hdraft hsize henergy hcount hplaced hobstacles (allowed_of_kinds hkinds ?_ ?_)
      all_goals
        rw [congrArg LevelDraft.grid hdraft]
        exact (count_grid_le (by decide)).trans (count_le_of_sublist hsub hdropped)

/-- A level that was generated is generated as well where more might be drawn. -/
theorem generateWithin_of_covers {σ : Type} {maxDraws maxDraws' : Nat} {source source' : DrawSource σ}
    {size number : Int} {s : σ} {r : Level × σ} (h : generateWithin maxDraws source size number s = .ok r)
    (hsource : Covers source' source) (hle : maxDraws ≤ maxDraws') :
    generateWithin maxDraws' source' size number s = .ok r := by
  rw [generateWithin] at h ⊢
  split at h
  · cases h
  · rename_i hlarge
    rw [if_neg hlarge]
    refine bind_ok_mono (fun _ henergy => scatterEnergy_of_covers hsource henergy hle) (fun energy s => ?_) h
    refine bind_ok_mono (fun _ => id) fun kinds s => ?_
    exact bind_ok_mono (fun _ => dropObstacles_of_covers hsource) fun _ _ => id

/-- Whatever is drawn, generating gives a level that is laid out for its number and size or fails as it may, which is
    never because what was scattered makes no level. -/
theorem generated_level_laid_out {σ : Type} (source : DrawSource σ) (maxDraws : Nat) (size number : Int) (s : σ) :
    (∀ l s', generateWithin maxDraws source size number s = .ok (l, s') → Laid number size l) ∧
    ∀ e, generateWithin maxDraws source size number s = .error e → Fails number size e ∧ ∀ e', e ≠ .level e' := by
  obtain ⟨hfails, hgives⟩ := generateWithin_gives maxDraws source size number s
  refine ⟨hgives, fun e he => ⟨hfails e he, ?_⟩⟩
  rintro e' rfl
  cases hfails _ he

theorem exists_eq_ok {ε α : Type} {x : Except ε α} (h : x.toOption.isSome = true) : ∃ a, x = .ok a := by
  cases x with
  | error e => cases h
  | ok a => exact ⟨a, rfl⟩

/-- A small level, with an obstacle on each side of the start. -/
def cornered : Except LoadError (Level × Nat) := generateWithin 1 (replaying [0, 0, 0, 1, 1, 2]) 3 1 0

theorem exists_cornered : ∃ l s, cornered = .ok (l, s) := by
  obtain ⟨⟨l, s⟩, h⟩ := exists_eq_ok (x := cornered) (by decide +kernel)
  exact ⟨l, s, h⟩

theorem cornered_laid_out : ∃ l s, cornered = .ok (l, s) ∧ Laid 1 3 l := by
  obtain ⟨l, s, h⟩ := exists_cornered
  exact ⟨l, s, h, (generated_level_laid_out _ _ _ _ _).1 l s h⟩

end GridWalk.Generator
