import GridWalk.Proofs.Number.Short
import Mathlib.Algebra.Order.Field.Power
import Mathlib.Tactic.Linarith

/-! How large rounded numbers are. A number is rounded by at most half of the gap between its neighbours, and the gap is
    small beside the number; so a number well below the largest is rounded to a finite one of about its size. -/

namespace GridWalk

theorem twoPower_eq_zpow (e : Int) : twoPower e = (2 : Rat) ^ e := by
  unfold twoPower
  split
  · rename_i he
    obtain ⟨n, rfl⟩ := Int.eq_ofNat_of_zero_le he
    simp
  · rename_i he
    obtain ⟨n, hn⟩ := Int.eq_ofNat_of_zero_le (Int.neg_nonneg.mpr (Int.le_of_lt (Int.not_le.mp he)))
    obtain rfl : e = -n := by omega
    simp

theorem abs_nearestInt_sub_le (q : Rat) : |(nearestInt q : Rat) - q| ≤ 1 / 2 := by
  have hlow : (q.floor : Rat) ≤ q := Rat.floor_le q
  have hhigh : q < q.floor + 1 := by exact_mod_cast Rat.lt_floor_add_one q
  rw [abs_le]
  unfold nearestInt
  dsimp only
  split
  · constructor <;> linarith
  · split
    · push_cast
      constructor <;> linarith
    · split
      · constructor <;> linarith
      · push_cast
        constructor <;> linarith

/-- The power of two of the exponent does not exceed the number. -/
theorem twoPower_binaryExponent_le {q : Rat} (h : q ≠ 0) : twoPower (binaryExponent q) ≤ |q| := by
  have hsize : (if q < 0 then -q else q) = |q| := by
    split
    · rename_i hneg
      rw [abs_of_neg hneg]
    · rename_i hpos
      rw [abs_of_nonneg (not_lt.mp hpos)]
  have hnum : q.num.natAbs ≠ 0 := Int.natAbs_ne_zero.mpr (Rat.num_ne_zero.mpr h)
  unfold binaryExponent
  simp only [hsize]
  split
  · -- The numerator has at least its power of two, and the denominator less than twice its own.
    have hlow : (2 : Rat) ^ q.num.natAbs.log2 ≤ q.num.natAbs := by exact_mod_cast Nat.log2_self_le hnum
    have hhigh : (q.den : Rat) ≤ 2 ^ (q.den.log2 + 1) := by exact_mod_cast Nat.lt_log2_self.le
    have hden : (0 : Rat) < q.den := Nat.cast_pos.mpr q.den_pos
    have hexponent : (q.num.natAbs.log2 : Int) - q.den.log2 - 1 = q.num.natAbs.log2 - ((q.den.log2 + 1 : Nat) : Int) := by
      omega
    rw [twoPower_eq_zpow, hexponent, zpow_sub₀ two_ne_zero, zpow_natCast, zpow_natCast, abs_eq_natAbs_div]
    exact div_le_div₀ (Nat.cast_nonneg _) hlow hden hhigh
  · rename_i hle
    exact not_lt.mp hle

namespace Binary64

theorem gap_le {q : Rat} (h : q ≠ 0) : gap q ≤ |q| + 1 := by
  have hpositive : 0 ≤ |q| := abs_nonneg q
  rw [gap]
  rcases max_choice (binaryExponent q - 52) (-1074) with hmax | hmax
  · have hless : twoPower (binaryExponent q - 52) ≤ twoPower (binaryExponent q) := by
      rw [twoPower_eq_zpow, twoPower_eq_zpow]
      exact zpow_le_zpow_right₀ one_le_two (by omega)
    have hexponent := twoPower_binaryExponent_le h
    rw [hmax]
    linarith
  · have hleast : twoPower (-1074) ≤ 1 := by
      rw [twoPower_eq_zpow]
      exact zpow_le_one_of_nonpos₀ one_le_two (by decide)
    rw [hmax]
    linarith

/-- A number is rounded by at most half of its gap. -/
theorem abs_rounded_sub_le (q : Rat) : |(nearestInt (q / gap q) : Rat) * gap q - q| ≤ 1 / 2 * gap q := by
  have hgap : 0 < gap q := twoPower_pos _
  have hscaled : (nearestInt (q / gap q) : Rat) * gap q - q = (nearestInt (q / gap q) - q / gap q) * gap q := by
    field_simp
  rw [hscaled, abs_mul, abs_of_pos hgap]
  exact mul_le_mul_of_nonneg_right (abs_nearestInt_sub_le _) hgap.le

/-- A number with a power of ten below the largest number is rounded to a finite one of at most ten times its size. -/
theorem exists_ofRat_finite {q : Rat} {k : Nat} (h : |q| ≤ 10 ^ k) (hk : k + 1 ≤ 308) :
    ∃ r, ofRat q = .finite r ∧ |r| ≤ 10 ^ (k + 1) := by
  have hone : (1 : Rat) ≤ 10 ^ k := one_le_pow₀ (by norm_num)
  by_cases hzero : q = 0
  · refine ⟨0, if_pos hzero, ?_⟩
    rw [abs_zero]
    positivity
  have hrounded : |(nearestInt (q / gap q) : Rat) * gap q| ≤ 10 ^ (k + 1) := by
    have hsum := abs_sub_abs_le_abs_sub ((nearestInt (q / gap q) : Rat) * gap q) q
    have herror := abs_rounded_sub_le q
    have hgap := gap_le hzero
    rw [pow_succ]
    linarith
  have hlargest : (10 : Rat) ^ (k + 1) < twoPower 1024 :=
    calc (10 : Rat) ^ (k + 1) ≤ 10 ^ 308 := pow_le_pow_right₀ (by norm_num) hk
      _ < twoPower 1024 := by
        have hpowers : 10 ^ 308 < 2 ^ 1024 := by decide +kernel
        rw [show (1024 : Int) = (1024 : Nat) from rfl, twoPower_natCast]
        exact_mod_cast hpowers
  obtain ⟨hlow, hhigh⟩ := abs_le.mp hrounded
  refine ⟨_, ?_, hrounded⟩
  rw [ofRat, if_neg hzero]
  simp only
  rw [if_neg (by linarith), if_neg (by linarith)]

theorem exists_ofInt_finite {n : Int} {k : Nat} (h : n.natAbs ≤ 10 ^ k) (hk : k + 1 ≤ 308) :
    ∃ r, ofInt n = .ok (.finite r) ∧ |r| ≤ 10 ^ (k + 1) := by
  have habs : |(n : Rat)| ≤ 10 ^ k := by
    rw [← Int.cast_abs, Int.abs_eq_natAbs]
    exact_mod_cast h
  obtain ⟨r, hr, hle⟩ := exists_ofRat_finite habs hk
  exact ⟨r, by rw [ofInt, hr], hle⟩

/-- A share of a whole number, as long as the number is not too large. -/
theorem exists_share {n : Int} {k : Nat} (share : Rat) (h : n.natAbs ≤ 10 ^ k) (hshare : |share| ≤ 10)
    (hk : k + 3 ≤ 308) : ∃ m, (ofInt n >>= fun x => (x.mul (.finite share)).truncate) = .ok m ∧
      m.natAbs ≤ 10 ^ (k + 3) := by
  obtain ⟨r, hr, hrle⟩ := exists_ofInt_finite h (by omega)
  have hproduct : |r * share| ≤ 10 ^ (k + 2) := by
    rw [abs_mul, pow_succ]
    exact mul_le_mul hrle hshare (abs_nonneg _) (by positivity)
  obtain ⟨q, hq, hqle⟩ := exists_ofRat_finite hproduct hk
  refine ⟨wholePart q, ?_, ?_⟩
  · rw [hr]
    change (ofRat (r * share)).truncate = _
    rw [hq]
    rfl
  · refine Nat.lt_succ_iff.mp (natAbs_wholePart_lt (hqle.trans_lt ?_))
    push_cast
    exact lt_add_one _

end Binary64

namespace Generator
open Binary64

/-- The obstacles of a level can be counted as long as its number is not too large. -/
theorem exists_obstacleKinds {number : Int} (h : number.natAbs ≤ 10 ^ 300) : ∃ kinds, obstacleKinds number = .ok kinds := by
  have hsixTenths : ofDecimal false 6 (-1) = .finite (5404319552844595 / 9007199254740992) := by decide +kernel
  obtain ⟨obstacles, hobstacles, hle⟩ := exists_share (5 / 2) h (by norm_num [abs_le]) (by decide)
  obtain ⟨voids, hvoids, -⟩ :=
    exists_share (5404319552844595 / 9007199254740992) hle (by norm_num [abs_le]) (by decide)
  rw [← hsixTenths] at hvoids
  have hcount : obstacleCount number = .ok obstacles := hobstacles
  have hcountVoids : voidCount obstacles = .ok voids := hvoids
  rw [obstacleKinds, hcount]
  simp only [bind, Except.bind, hcountVoids]
  exact ⟨_, rfl⟩

end Generator
end GridWalk
