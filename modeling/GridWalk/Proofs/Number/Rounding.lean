import GridWalk.Level.Generator
import Mathlib.Data.Rat.Floor

/-! Rounding and signs. A number that is not positive is rounded to one that is not, so a level whose number is not
    positive has no obstacle to drop. -/

namespace GridWalk

theorem twoPower_pos (e : Int) : 0 < twoPower e := by
  have hpower : ∀ n : Nat, (0 : Rat) < (Nat.pow 2 n : Rat) := fun _ => Nat.cast_pos.mpr (Nat.pow_pos Nat.two_pos)
  unfold twoPower
  split
  · exact hpower _
  · exact one_div_pos.mpr (hpower _)

theorem nearestInt_nonpos {q : Rat} (h : q ≤ 0) : nearestInt q ≤ 0 := by
  have hfloor : q.floor < 1 := Int.lt_of_not_ge fun hle => by
    have := (Rat.le_floor_iff.mp hle).trans h
    norm_num at this
  unfold nearestInt
  dsimp only
  split
  · omega
  · rename_i hhalf
    -- Where the floor is zero the number is zero, and nothing is left to round up.
    have hneg : q.floor < 0 := by
      refine lt_of_le_of_ne (Int.lt_add_one_iff.mp hfloor) fun hzero => hhalf ?_
      rw [hzero]
      norm_num
      linarith
    split
    · omega
    · split <;> omega

theorem wholePart_nonpos {q : Rat} (h : q ≤ 0) : wholePart q ≤ 0 := by
  have hnum : 0 ≤ -q.num := Int.neg_nonneg.mpr (Rat.num_nonpos.mpr h)
  rw [wholePart, ← Int.neg_neg q.num, Int.neg_tdiv]
  exact Int.neg_nonpos_of_nonneg (Int.tdiv_nonneg hnum (Int.natCast_nonneg _))

namespace Binary64

/-- What is not positive is rounded to what is not, or to the negative infinity. -/
theorem ofRat_of_nonpos {q : Rat} (h : q ≤ 0) : (∃ r, r ≤ 0 ∧ ofRat q = .finite r) ∨ ofRat q = .infinity true := by
  have hgap : 0 < gap q := twoPower_pos _
  have hrounded : (nearestInt (q / gap q) : Rat) * gap q ≤ 0 :=
    mul_nonpos_of_nonpos_of_nonneg (Int.cast_nonpos.mpr (nearestInt_nonpos (div_nonpos_of_nonpos_of_nonneg h hgap.le)))
      hgap.le
  unfold ofRat
  split
  · exact .inl ⟨0, le_refl 0, rfl⟩
  · dsimp only
    split
    · rename_i hlarge
      exact absurd (hlarge.trans hrounded) (not_le.mpr (twoPower_pos 1024))
    · split
      · exact .inr rfl
      · exact .inl ⟨_, hrounded, rfl⟩

end Binary64

namespace Generator

/-- A level whose number is not positive has no obstacles. -/
theorem obstacleCount_nonpos {number obstacles : Int} (h : number ≤ 0) (hcount : obstacleCount number = .ok obstacles) :
    obstacles ≤ 0 := by
  rcases Binary64.ofRat_of_nonpos (Int.cast_nonpos.mpr h : (number : Rat) ≤ 0) with ⟨r, hr, hofInt⟩ | hofInt
  · have hscaled : r * (5 / 2) ≤ 0 := mul_nonpos_of_nonpos_of_nonneg hr (by norm_num)
    have hread : obstacleCount number = (Binary64.ofRat (r * (5 / 2))).truncate := by
      rw [obstacleCount, Binary64.ofInt, hofInt]
      rfl
    rw [hread] at hcount
    rcases Binary64.ofRat_of_nonpos hscaled with ⟨r', hr', hproduct⟩ | hproduct
    · rw [hproduct] at hcount
      rw [← Except.ok.inj hcount]
      exact wholePart_nonpos hr'
    · rw [hproduct] at hcount
      cases hcount
  · rw [obstacleCount, Binary64.ofInt, hofInt] at hcount
    cases hcount

end Generator
end GridWalk
