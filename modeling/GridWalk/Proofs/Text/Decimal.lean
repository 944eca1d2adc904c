import GridWalk.Text.Classes
import Mathlib.Algebra.Order.Ring.Nat
import Mathlib.Tactic.Ring

/-! The numbers that plain digits write. A digit in front counts with the power of ten of the digits
    behind it, so zeros in front do not count, and a number of `n` digits lies below `10 ^ n`. -/

namespace GridWalk.Text

/-- The value of a plain digit. -/
def digitValue (c : Char) : Nat := c.toNat - '0'.toNat

theorem isPlainDigit_iff {c : Char} : isPlainDigit c = true ↔ '0'.toNat ≤ c.toNat ∧ c.toNat ≤ '9'.toNat := by
  rw [isPlainDigit, Bool.and_eq_true, decide_eq_true_eq, decide_eq_true_eq]
  exact Iff.rfl

theorem digitValue_lt {c : Char} (h : isPlainDigit c = true) : digitValue c < 10 := by
  have hc := (isPlainDigit_iff.mp h).2
  have h9 : '9'.toNat = '0'.toNat + 9 := rfl
  unfold digitValue
  omega

theorem digitValue_pos {c : Char} (h : isPlainDigit c = true) (h0 : c ≠ '0') : 0 < digitValue c := by
  have hc := (isPlainDigit_iff.mp h).1
  have hne : c.toNat ≠ '0'.toNat := fun he => h0 (Char.toNat_inj.mp he)
  unfold digitValue
  omega

@[simp] theorem decimalNumber_nil : decimalNumber [] = 0 := rfl

theorem decimalNumber_eq_foldl (c : Char) (ds : List Char) :
    decimalNumber (c :: ds) = ds.foldl (fun n c => 10 * n + digitValue c) (digitValue c) := by
  rw [decimalNumber, List.foldl_cons, Nat.mul_zero, Nat.zero_add]
  rfl

/-- Reading on from a number shifts it by the places read. -/
theorem foldl_decimal (n : Nat) (ds : List Char) :
    ds.foldl (fun n c => 10 * n + digitValue c) n = n * 10 ^ ds.length + decimalNumber ds := by
  induction ds generalizing n with
  | nil => simp
  | cons c ds ih =>
    rw [List.foldl_cons, ih, decimalNumber_eq_foldl, ih, List.length_cons, pow_succ]
    ring

theorem decimalNumber_cons (c : Char) (ds : List Char) :
    decimalNumber (c :: ds) = digitValue c * 10 ^ ds.length + decimalNumber ds := by
  rw [decimalNumber_eq_foldl, foldl_decimal]

theorem decimalNumber_lt {ds : List Char} (h : ∀ c ∈ ds, isPlainDigit c = true) :
    decimalNumber ds < 10 ^ ds.length := by
  induction ds with
  | nil => simp
  | cons c ds ih =>
    have hc : digitValue c + 1 ≤ 10 := digitValue_lt (h c (by simp))
    have hds := ih fun d hd => h d (List.mem_cons_of_mem _ hd)
    rw [decimalNumber_cons]
    calc digitValue c * 10 ^ ds.length + decimalNumber ds
        < digitValue c * 10 ^ ds.length + 10 ^ ds.length := Nat.add_lt_add_left hds _
      _ = (digitValue c + 1) * 10 ^ ds.length := by ring
      _ ≤ 10 * 10 ^ ds.length := Nat.mul_le_mul_right _ hc
      _ = 10 ^ (c :: ds).length := by rw [List.length_cons, pow_succ]; ring

/-- Digits that begin with no zero write a number of full length. -/
theorem le_decimalNumber {c : Char} {ds : List Char} (h : isPlainDigit c = true) (h0 : c ≠ '0') :
    10 ^ ds.length ≤ decimalNumber (c :: ds) := by
  rw [decimalNumber_cons]
  calc 10 ^ ds.length = 1 * 10 ^ ds.length := (Nat.one_mul _).symm
    _ ≤ digitValue c * 10 ^ ds.length := Nat.mul_le_mul_right _ (digitValue_pos h h0)
    _ ≤ digitValue c * 10 ^ ds.length + decimalNumber ds := Nat.le_add_right _ _

/-- Zeros in front do not count. -/
theorem decimalNumber_dropWhile (ds : List Char) :
    decimalNumber (ds.dropWhile (· == '0')) = decimalNumber ds := by
  induction ds with
  | nil => rfl
  | cons c ds ih =>
    by_cases hc : c = '0'
    · subst hc
      rw [List.dropWhile_cons_of_pos (by simp), ih, decimalNumber_cons]
      simp [digitValue]
    · rw [List.dropWhile_cons_of_neg (by simpa using hc)]

/-! ### Written numbers -/

theorem isPlainDigit_of_mem_toDigits {n : Nat} {c : Char} (h : c ∈ Nat.toDigits 10 n) : isPlainDigit c = true := by
  have hdigit := Nat.isDigit_of_mem_toDigits (by decide) (Nat.le_refl 10) h
  rw [Char.isDigit, Bool.and_eq_true, decide_eq_true_eq, decide_eq_true_eq] at hdigit
  exact isPlainDigit_iff.mpr hdigit

theorem decimalNumber_toDigits (n : Nat) : decimalNumber (Nat.toDigits 10 n) = n := by
  have hdigits : Nat.ofDigitChars 10 (Nat.toDigits 10 n) 0 = n := Nat.ofDigitChars_toDigits (by decide) (Nat.le_refl 10)
  rwa [Nat.ofDigitChars] at hdigits

end GridWalk.Text
