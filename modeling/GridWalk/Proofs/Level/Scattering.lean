import GridWalk.Level.Generator

/-! What is scattered over a square, whatever is drawn. The energy cells lie off the border and apart from each other.
    The obstacles lie apart from each other, from the energy cells, from the start and from the door, and they are some
    of those that were to drop, in their order. Nothing fails but where the draws run out. -/

namespace GridWalk.Generator
open GridWalk.Random

variable {σ α β : Type} {fails : LoadError → Prop}

/-! ### Drawings -/

/-- A drawing fails only with failures of a kind, and what it gives has a property. -/
def Gives (fails : LoadError → Prop) (m : Drawing σ α) (P : α → Prop) : Prop :=
  ∀ s, (∀ e, m s = .error e → fails e) ∧ ∀ a s', m s = .ok (a, s') → P a

namespace Gives
variable {m : Drawing σ α} {k : α → Drawing σ β} {P P' : α → Prop} {Q : β → Prop}

theorem pure {a : α} (h : P a) : Gives fails (Pure.pure a : Drawing σ α) P := by
  refine fun s => ⟨nofun, fun a' s' ha => ?_⟩
  obtain ⟨rfl, -⟩ := Prod.mk.inj (Except.ok.inj ha)
  exact h

theorem throw {e : LoadError} (h : fails e) : Gives fails (MonadExcept.throw e : Drawing σ α) P := by
  refine fun s => ⟨fun e' he => ?_, nofun⟩
  obtain rfl := Except.error.inj he
  exact h

/-- What is computed without draws, its failures told as failures to load. -/
theorem ofExcept {ε : Type} {x : Except ε α} {tell : ε → LoadError} (herror : ∀ e, x = .error e → fails (tell e))
    (hok : ∀ a, x = .ok a → P a) : Gives fails (liftM (x.mapError tell) : Drawing σ α) P := by
  intro s
  cases x with
  | error e =>
    refine ⟨fun e' he => ?_, nofun⟩
    obtain rfl := Except.error.inj he
    exact herror e rfl
  | ok a =>
    refine ⟨nofun, fun a' s' ha => ?_⟩
    obtain ⟨rfl, -⟩ := Prod.mk.inj (Except.ok.inj ha)
    exact hok a rfl

theorem bind (hm : Gives fails m P) (hk : ∀ a, P a → Gives fails (k a) Q) : Gives fails (m >>= k) Q := by
  intro s
  obtain ⟨hfails, hgives⟩ := hm s
  change (∀ e, (m s >>= fun r => k r.1 r.2) = .error e → _) ∧ ∀ b s', (m s >>= fun r => k r.1 r.2) = .ok (b, s') → _
  cases hrun : m s with
  | error e =>
    refine ⟨fun e' he' => ?_, nofun⟩
    rw [← Except.error.inj he']
    exact hfails e hrun
  | ok r => exact hk r.1 (hgives r.1 r.2 hrun) r.2

theorem mono (hm : Gives fails m P) (h : ∀ a, P a → P' a) : Gives fails m P' :=
  fun s => ⟨(hm s).1, fun a s' ha => h a ((hm s).2 a s' ha)⟩

end Gives

theorem bind_eq_ok_iff {m : Drawing σ α} {k : α → Drawing σ β} {s : σ} {r : β × σ} :
    (m >>= k) s = .ok r ↔ ∃ a between, m s = .ok (a, between) ∧ k a between = .ok r := by
  change (m s >>= fun r => k r.1 r.2) = .ok r ↔ _
  cases m s with
  | error e => exact ⟨nofun, nofun⟩
  | ok a => exact ⟨fun h => ⟨a.1, a.2, rfl, h⟩, fun ⟨_, _, ha, h⟩ => by cases ha; exact h⟩

theorem liftM_mapError_eq_ok_iff {ε : Type} {x : Except ε α} {tell : ε → LoadError} {a : α} {s s' : σ} :
    (liftM (x.mapError tell) : Drawing σ α) s = .ok (a, s') ↔ x = .ok a ∧ s = s' := by
  cases x with
  | error e => exact ⟨nofun, fun h => nomatch h.1⟩
  | ok b =>
    change Except.ok (b, s) = .ok (a, s') ↔ _
    rw [Except.ok.injEq, Except.ok.injEq, Prod.mk.injEq]

/-- Where its parts give what they gave, a drawing gives what it gave. -/
theorem bind_ok_mono {m m' : Drawing σ α} {k k' : α → Drawing σ β} {s : σ} {r : β × σ}
    (hm : ∀ a, m s = .ok a → m' s = .ok a) (hk : ∀ a s', k a s' = .ok r → k' a s' = .ok r)
    (h : (m >>= k) s = .ok r) : (m' >>= k') s = .ok r := by
  obtain ⟨a, s', ha, hr⟩ := bind_eq_ok_iff.mp h
  exact bind_eq_ok_iff.mpr ⟨a, s', hm _ ha, hk a s' hr⟩

/-! ### Sources -/

/-- The source draws whatever the other one draws, and may draw where that one gives up. -/
def Covers (source' source : DrawSource σ) : Prop := ∀ n s r, source.below n s = some r → source'.below n s = some r

theorem Covers.refl (source : DrawSource σ) : Covers source source := fun _ _ _ => id

theorem drawBelow_of_le {n bits fuel fuel' : Nat} {t : Twister} {r : Nat × Twister}
    (h : Twister.drawBelow n bits fuel t = some r) (hle : fuel ≤ fuel') : Twister.drawBelow n bits fuel' t = some r := by
  induction fuel generalizing t fuel' with
  | zero => cases h
  | succ fuel ih =>
    obtain ⟨fuel', rfl⟩ := Nat.exists_eq_add_of_le' (Nat.lt_of_lt_of_le (Nat.succ_pos fuel) hle)
    rw [Twister.drawBelow] at h ⊢
    dsimp only at h ⊢
    split at h
    · rename_i hfits
      rw [if_pos hfits]
      exact h
    · rename_i hrefused
      rw [if_neg hrefused]
      exact ih h (Nat.le_of_succ_le_succ hle)

theorem twister_covers {maxWords maxWords' : Nat} (hle : maxWords ≤ maxWords') :
    Covers (Twister.source maxWords') (Twister.source maxWords) := fun _ _ _ h => drawBelow_of_le h hle

/-! ### Places on the square -/

/-- A position lies on the square. -/
def OnSquare (size : Nat) (p : Position) : Prop := 0 ≤ p.x ∧ p.x < size ∧ 0 ≤ p.y ∧ p.y < size

/-- Positions off the border of a square and apart from each other. -/
structure Scattered (size : Nat) (energy : List Position) : Prop where
  nodup : energy.Nodup
  inside : ∀ p ∈ energy, 0 < p.x ∧ p.x < size - 1 ∧ 0 < p.y ∧ p.y < size - 1

/-- A position that nothing lies on so far. -/
structure Free (size : Nat) (energy : List Position) (placed : Obstacles) (p : Position) : Prop where
  onSquare : OnSquare size p
  ne_start : p ≠ start size
  ne_door : p ≠ door size
  not_energy : p ∉ energy
  not_placed : p ∉ placed.map Prod.fst

/-- Obstacles each of which dropped on a free position. -/
inductive Dropped (size : Nat) (energy : List Position) : Obstacles → Prop
  | nil : Dropped size energy []
  | cons {p : Position} {kind : Terrain} {placed : Obstacles} (hfree : Free size energy placed p)
      (hplaced : Dropped size energy placed) : Dropped size energy ((p, kind) :: placed)

section Places
variable {size : Nat} {energy : List Position} {placed : Obstacles} {p : Position}

theorem Scattered.nil : Scattered size [] := ⟨.nil, nofun⟩

theorem Scattered.concat (h : Scattered size energy) {x y : Nat} (hx : x < size - 2) (hy : y < size - 2)
    (hnew : (⟨x + 1, y + 1⟩ : Position) ∉ energy) : Scattered size (energy ++ [⟨x + 1, y + 1⟩]) := by
  refine ⟨List.nodup_append.mpr ⟨h.nodup, List.pairwise_singleton _ _, fun p hp q hq heq => ?_⟩, fun p hp => ?_⟩
  · obtain rfl := List.mem_singleton.mp hq
    exact hnew (heq ▸ hp)
  · rcases List.mem_append.mp hp with hp | hp
    · exact h.inside p hp
    · obtain rfl := List.mem_singleton.mp hp
      simp only
      omega

theorem Scattered.onSquare (h : Scattered size energy) (hp : p ∈ energy) : OnSquare size p := by
  have := h.inside p hp
  unfold OnSquare
  omega

theorem Scattered.ne_start (h : Scattered size energy) (hp : p ∈ energy) : p ≠ start size := by
  rintro rfl
  exact absurd (h.inside _ hp).1 (Int.lt_irrefl 0)

theorem Scattered.ne_door (h : Scattered size energy) (hp : p ∈ energy) : p ≠ door size := by
  rintro rfl
  exact absurd (h.inside _ hp).2.2.1 (Int.lt_irrefl 0)

theorem free_of_not_taken {x y : Nat} (hx : x < size) (hy : y < size) (h : ¬isTaken size energy placed ⟨x, y⟩ = true) :
    Free size energy placed ⟨x, y⟩ := by
  simp only [isTaken, Bool.or_eq_true, decide_eq_true_eq, List.contains_iff_mem, List.any_eq_true, not_or, not_exists,
    not_and] at h
  obtain ⟨⟨⟨hstart, hdoor⟩, henergy⟩, hplaced⟩ := h
  refine ⟨?_, hstart, hdoor, henergy, fun hmem => ?_⟩
  · exact ⟨Int.natCast_nonneg x, Int.ofNat_lt.mpr hx, Int.natCast_nonneg y, Int.ofNat_lt.mpr hy⟩
  · obtain ⟨o, ho, hsame⟩ := List.mem_map.mp hmem
    exact hplaced o ho hsame

/-- An obstacle lies neither on the start or the door nor on an energy cell. -/
theorem Dropped.free (h : Dropped size energy placed) (hp : p ∈ placed.map Prod.fst) : Free size energy [] p := by
  induction h with
  | nil => cases hp
  | cons hfree _ ih =>
    rcases List.mem_cons.mp hp with rfl | hp
    · exact ⟨hfree.onSquare, hfree.ne_start, hfree.ne_door, hfree.not_energy, nofun⟩
    · exact ih hp

end Places

/-! ### What is drawn -/

theorem scatterEnergy_of_enough (source : DrawSource σ) {size count : Nat} {found : List Position} (fuel : Nat)
    (h : count ≤ found.length) : scatterEnergy source size count fuel found = pure found := by
  cases fuel <;> rw [scatterEnergy, if_pos h]

theorem scatterEnergy_succ (source : DrawSource σ) {size count : Nat} {found : List Position} (fuel : Nat)
    (h : ¬count ≤ found.length) : scatterEnergy source size count (fuel + 1) found = (do
      let x ← draw source (size - 2)
      let y ← draw source (size - 2)
      let p : Position := ⟨x + 1, y + 1⟩
      scatterEnergy source size count fuel (if p ∈ found then found else found ++ [p])) := by
  rw [scatterEnergy, if_neg h]

section Covering
variable {source source' : DrawSource σ} (hsource : Covers source' source)
include hsource

theorem draw_of_covers {bound : Nat} {s : σ} {r : Nat × σ} (h : draw source bound s = .ok r) :
    draw source' bound s = .ok r := by
  rw [draw] at h ⊢
  split at h
  · rename_i drawn hdrawn
    rw [hsource _ _ _ hdrawn]
    exact h
  · cases h

/-- Once there are enough energy cells it does not matter how many positions might have been drawn. -/
theorem scatterEnergy_of_covers {size count fuel fuel' : Nat} {found : List Position} {s : σ} {r : List Position × σ}
    (h : scatterEnergy source size count fuel found s = .ok r) (hle : fuel ≤ fuel') :
    scatterEnergy source' size count fuel' found s = .ok r := by
  induction fuel generalizing found s fuel' with
  | zero =>
    by_cases hdone : count ≤ found.length
    · rw [scatterEnergy_of_enough _ _ hdone] at h ⊢
      exact h
    · rw [scatterEnergy, if_neg hdone] at h
      cases h
  | succ fuel ih =>
    by_cases hdone : count ≤ found.length
    · rw [scatterEnergy_of_enough _ _ hdone] at h ⊢
      exact h
    · obtain ⟨fuel', rfl⟩ := Nat.exists_eq_add_of_le' (Nat.lt_of_lt_of_le (Nat.succ_pos fuel) hle)
      rw [scatterEnergy_succ _ _ hdone] at h ⊢
      refine bind_ok_mono (fun _ => draw_of_covers hsource) (fun x s => ?_) h
      refine bind_ok_mono (fun _ => draw_of_covers hsource) fun y s hy => ?_
      exact ih hy (Nat.le_of_succ_le_succ hle)

theorem findFree_of_covers {size tries : Nat} {taken : Position → Bool} {s : σ} {r : Option Position × σ}
    (h : findFree source size taken tries s = .ok r) : findFree source' size taken tries s = .ok r := by
  induction tries generalizing s with
  | zero => exact h
  | succ tries ih =>
    refine bind_ok_mono (fun _ => draw_of_covers hsource) (fun x s => ?_) h
    refine bind_ok_mono (fun _ => draw_of_covers hsource) fun y s hy => ?_
    split at hy
    · rename_i htaken
      rw [if_pos htaken]
      exact ih hy
    · rename_i hfree
      rw [if_neg hfree]
      exact hy

theorem dropObstacles_of_covers {size : Nat} {energy : List Position} {kinds : List Terrain} {placed : Obstacles} {s : σ}
    {r : Obstacles × σ} (h : dropObstacles source size energy kinds placed s = .ok r) :
    dropObstacles source' size energy kinds placed s = .ok r := by
  induction kinds generalizing placed s with
  | nil => exact h
  | cons kind kinds ih =>
    refine bind_ok_mono (fun _ => findFree_of_covers hsource) (fun found s hrest => ?_) h
    cases found with
    | none => exact ih hrest
    | some p => exact ih hrest

end Covering

section Draws
variable (source : DrawSource σ) (hfails : fails .outOfDraws) {size : Nat} {energy : List Position}
  {placed : Obstacles}
include hfails

theorem draw_gives {bound : Nat} (h : 0 < bound) : Gives fails (draw source bound) (· < bound) := by
  intro s
  rw [draw]
  cases hdrawn : source.below bound s with
  | none =>
    refine ⟨fun e he => ?_, nofun⟩
    obtain rfl := Except.error.inj he
    exact hfails
  | some r =>
    refine ⟨nofun, fun d s' hd => ?_⟩
    obtain rfl := Except.ok.inj hd
    exact source.below_lt h hdrawn

/-- Energy cells are drawn until there are enough. -/
theorem scatterEnergy_gives (hsize : minSize ≤ size) {count fuel : Nat} {found : List Position}
    (hfound : Scattered size found) (hcount : found.length ≤ count) :
    Gives fails (scatterEnergy source size count fuel found)
      fun energy => Scattered size energy ∧ energy.length = count := by
  have hpos : 0 < size - 2 := Nat.sub_pos_of_lt hsize
  induction fuel generalizing found with
  | zero =>
    by_cases hdone : count ≤ found.length
    · rw [scatterEnergy_of_enough source _ hdone]
      exact .pure ⟨hfound, Nat.le_antisymm hcount hdone⟩
    · rw [scatterEnergy, if_neg hdone]
      exact .throw hfails
  | succ fuel ih =>
    by_cases hdone : count ≤ found.length
    · rw [scatterEnergy_of_enough source _ hdone]
      exact .pure ⟨hfound, Nat.le_antisymm hcount hdone⟩
    · rw [scatterEnergy_succ source _ hdone]
      refine .bind (draw_gives source hfails hpos) fun x hx => .bind (draw_gives source hfails hpos) fun y hy => ?_
      dsimp only
      split
      · exact ih hfound hcount
      · rename_i hnew
        refine ih (hfound.concat hx hy hnew) ?_
        rw [List.length_append, List.length_singleton]
        omega

theorem findFree_gives (hsize : 0 < size) {tries : Nat} :
    Gives fails (findFree source size (isTaken size energy placed) tries)
      fun found => ∀ p, found = some p → Free size energy placed p := by
  induction tries with
  | zero => exact .pure nofun
  | succ tries ih =>
    refine .bind (draw_gives source hfails hsize) fun x hx => .bind (draw_gives source hfails hsize) fun y hy => ?_
    dsimp only
    split
    · exact ih
    · rename_i hfree
      refine .pure fun p hp => ?_
      obtain rfl := Option.some.inj hp
      exact free_of_not_taken hx hy hfree

/-- Obstacles drop in their order, and those that find no free position are left out. -/
theorem dropObstacles_gives (hsize : 0 < size) {kinds : List Terrain} (hplaced : Dropped size energy placed) :
    Gives fails (dropObstacles source size energy kinds placed) fun all =>
      Dropped size energy all ∧ ∃ dropped : List Terrain, dropped.Sublist kinds ∧
        all.map Prod.snd = dropped.reverse ++ placed.map Prod.snd := by
  induction kinds generalizing placed with
  | nil => exact .pure ⟨hplaced, [], .slnil, rfl⟩
  | cons kind kinds ih =>
    refine .bind (findFree_gives source hfails hsize) fun found hfound => ?_
    cases found with
    | none =>
      refine (ih hplaced).mono ?_
      rintro all ⟨hall, dropped, hsub, heq⟩
      exact ⟨hall, dropped, hsub.cons kind, heq⟩
    | some p =>
      have hdropped : Dropped size energy ((p, kind) :: placed) := .cons (hfound p rfl) hplaced
      refine (ih hdropped).mono ?_
      rintro all ⟨hall, dropped, hsub, heq⟩
      refine ⟨hall, kind :: dropped, hsub.cons_cons kind, ?_⟩
      rw [heq, List.reverse_cons, List.append_assoc]
      rfl

end Draws
end GridWalk.Generator
