import GridWalk.Number.Reading
import GridWalk.Proofs.Number.Rounding
import GridWalk.Proofs.Text.Decimal

/-! Short whole numbers, those with no more digits than are read. What digits that are read write is short, and
    so is the whole part of every finite floating-point number. -/

namespace GridWalk

/-- A whole number with no more digits than are read. -/
def Short (n : Int) : Prop := n.natAbs < 10 ^ maxDigits

/-- A number whose whole part, if it has one, is short. -/
def Number.ShortWhole (x : Number) : Prop := ∀ n, x.truncate = .ok n → Short n

theorem short_of_digit {n : Int} (h : n.natAbs < 10) : Short n :=
  h.trans_le (Nat.le_self_pow (by decide) 10)

theorem Short.neg {n : Int} (h : Short n) : Short (-n) := by
  rw [Short, Int.natAbs_neg]
  exact h

theorem short_of_digits {ds : List Char} (hds : ∀ c ∈ ds, Text.isPlainDigit c = true)
    (hlength : ds.length ≤ maxDigits) :
    Short (Text.decimalNumber ds) :=
  (Text.decimalNumber_lt hds).trans_le (Nat.pow_le_pow_right (by decide) hlength)

theorem wholePart_intCast (n : Int) : wholePart n = n := by
  rw [wholePart, Rat.num_intCast, Rat.den_intCast, Nat.cast_one, Int.tdiv_one]

theorem Number.shortWhole_whole {n : Int} (h : Short n) : ShortWhole (.whole n) := by
  intro m hm
  rw [← Except.ok.inj hm, wholePart_intCast]
  exact h

/-! ### Floating-point numbers -/

theorem abs_eq_natAbs_div (q : Rat) : |q| = (q.num.natAbs : Rat) / q.den := by
  rw [Rat.abs_def, Rat.divInt_eq_div]
  rfl

theorem natAbs_wholePart_lt {q : Rat} {n : Nat} (h : |q| < n) : (wholePart q).natAbs < n := by
  have hden : (0 : Rat) < q.den := Nat.cast_pos.mpr q.den_pos
  rw [abs_eq_natAbs_div, div_lt_iff₀ hden, ← Nat.cast_mul, Nat.cast_lt] at h
  rw [wholePart, Int.natAbs_tdiv]
  exact (Nat.div_lt_iff_lt_mul q.den_pos).mpr h

theorem twoPower_natCast (n : Nat) : twoPower n = ((2 ^ n : Nat) : Rat) := if_pos (Int.natCast_nonneg n)

theorem short_wholePart {q : Rat} {e : Nat} (h : |q| < twoPower e) (he : e ≤ maxDigits) : Short (wholePart q) := by
  rw [twoPower_natCast] at h
  calc (wholePart q).natAbs < 2 ^ e := natAbs_wholePart_lt h
    _ ≤ 10 ^ e := Nat.pow_le_pow_left (by decide) e
    _ ≤ 10 ^ maxDigits := Nat.pow_le_pow_right (by decide) he

namespace Binary64

theorem abs_lt_of_ofRat {q r : Rat} (h : ofRat q = .finite r) : |r| < twoPower 1024 := by
  unfold ofRat at h
  split at h
  · obtain rfl : 0 = r := by injection h
    rw [abs_zero]
    exact twoPower_pos 1024
  · dsimp only at h
    split at h
    · cases h
    · split at h
      · cases h
      · rename_i hbelow habove
        injection h with h
        rw [← h, abs_lt]
        exact ⟨not_le.mp habove, not_le.mp hbelow⟩

theorem shortWhole_ofRat (q : Rat) : Number.ShortWhole (.real (ofRat q)) := by
  intro n hn
  cases hrounded : ofRat q with
  | infinity | nan =>
    rw [hrounded] at hn
    cases hn
  | finite r =>
    rw [hrounded] at hn
    rw [← Except.ok.inj hn]
    exact short_wholePart (e := 1024) (abs_lt_of_ofRat hrounded) (by decide)

theorem shortWhole_ofDecimal (negative : Bool) (digits : Nat) (exponent : Int) :
    Number.ShortWhole (.real (ofDecimal negative digits exponent)) := by
  unfold ofDecimal
  dsimp only
  split
  · exact Number.shortWhole_whole (n := 0) (short_of_digit (by decide))
  · split
    · exact fun _ hn => by cases hn
    · split <;> exact shortWhole_ofRat _

end Binary64

namespace NumberText

theorem shortWhole_decimal {negative : Bool} {cs : List Char} {x : Binary64} (h : decimal? negative cs = some x) :
    Number.ShortWhole (.real x) := by
  rw [decimal?] at h
  split at h
  split at h
  · cases h
  · obtain ⟨e, -, rfl⟩ := Option.map_eq_some_iff.mp h
    exact Binary64.shortWhole_ofDecimal _ _ _

/-- Leaving out underscores adds nothing. -/
theorem mem_of_withoutUnderscores {cs ds : List Char} (h : withoutUnderscores? cs = some ds) :
    ∀ c ∈ ds, c ∈ cs ∧ c ≠ '_' := by
  induction cs using withoutUnderscores?.induct generalizing ds with
  | case1 =>
    obtain rfl := Option.some.inj h
    nofun
  | case2 => cases h
  | case3 c d cs hscore hplain ih =>
    rw [withoutUnderscores?.eq_3 c d cs hscore, if_pos hplain] at h
    obtain ⟨es, hes, rfl⟩ := Option.map_eq_some_iff.mp h
    intro e he
    rcases List.mem_cons.mp he with rfl | he
    · exact ⟨List.mem_cons_self, hscore⟩
    · exact ⟨List.mem_cons_of_mem _ (List.mem_cons_of_mem _ (ih hes e he).1), (ih hes e he).2⟩
  | case4 c d cs hscore hplain =>
    rw [withoutUnderscores?.eq_3 c d cs hscore, if_neg hplain] at h
    cases h
  | case5 c cs hscore hbetween ih =>
    rw [withoutUnderscores?.eq_4 c cs hscore hbetween] at h
    obtain ⟨es, hes, rfl⟩ := Option.map_eq_some_iff.mp h
    intro e he
    rcases List.mem_cons.mp he with rfl | he
    · exact ⟨List.mem_cons_self, hscore⟩
    · exact ⟨List.mem_cons_of_mem _ (ih hes e he).1, (ih hes e he).2⟩

end NumberText

open NumberText

theorem short_of_readInt {text : String} {n : Int} (h : readInt text = .ok n) : Short n := by
  unfold readInt at h
  dsimp only at h
  split at h
  · cases h
  · cases h
  · rename_i digits hne hdigits
    split at h
    · cases h
    · rename_i hlength
      have hplain : ∀ c ∈ digits, Text.isPlainDigit c = true := by
        intro c hc
        obtain ⟨hrun, hscore⟩ := mem_of_withoutUnderscores hdigits c hc
        have hmark := List.all_eq_true.mp List.all_takeWhile c hrun
        simpa [hscore] using hmark
      have hshort := short_of_digits hplain (Nat.not_lt.mp hlength)
      split at h
      · cases h
      · rw [← Except.ok.inj h]
        split
        · exact hshort.neg
        · exact hshort

end GridWalk
