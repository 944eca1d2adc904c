import GridWalk.Command.Count
import GridWalk.Proofs.Text.Decimal

/-! What counts read. A count is the number its digits write, up to one million, and the digits that a
    text begins with are a longest run. -/

namespace GridWalk.Command
open Text

/-- A count is exact below one million and one million from there on. -/
theorem countOf_eq_min {ds : List Char} (h : ∀ c ∈ ds, isPlainDigit c = true) :
    countOf ds = min (decimalNumber ds) oversizedCount := by
  have hsig : ∀ c ∈ ds.dropWhile (· == '0'), isPlainDigit c = true :=
    fun c hc => h c ((List.dropWhile_sublist _).subset hc)
  have hnum := decimalNumber_dropWhile ds
  have hone : oversizedCount = 10 ^ maxCountDigits := rfl
  unfold countOf
  simp only
  cases hs : ds.dropWhile (· == '0') with
  | nil =>
    rw [hs] at hnum
    rw [← hnum]
    simp
  | cons c cs =>
    have hc0 : c ≠ '0' := by
      have := List.head?_dropWhile_not (p := (· == '0')) ds
      rw [hs] at this
      simpa using this
    rw [hs] at hsig hnum
    have hc := hsig c (by simp)
    rw [← hnum, hone]
    split
    · rename_i hlong
      have hle : 10 ^ maxCountDigits ≤ 10 ^ cs.length :=
        Nat.pow_le_pow_right (by decide) (Nat.lt_succ_iff.mp (by simpa using hlong))
      exact (Nat.min_eq_right (hle.trans (le_decimalNumber hc hc0))).symm
    · rename_i hshort
      have hlt := decimalNumber_lt hsig
      have hle : 10 ^ (c :: cs).length ≤ 10 ^ maxCountDigits := Nat.pow_le_pow_right (by decide) (by omega)
      exact (Nat.min_eq_left (Nat.le_of_lt (Nat.lt_of_lt_of_le hlt hle))).symm

/-- No digit stands at the beginning of the text. -/
def NoDigitFirst (cs : List Char) : Prop := ∀ c ∈ cs.head?, isPlainDigit c = false

theorem takeDigits_append {ds cs : List Char} (h : ∀ c ∈ ds, isPlainDigit c = true) (hcs : NoDigitFirst cs) :
    takeDigits (ds ++ cs) = (ds, cs) := by
  unfold takeDigits
  rw [List.takeWhile_append_of_pos h, List.dropWhile_append_of_pos h]
  cases cs with
  | nil => simp
  | cons c cs =>
    have hc : isPlainDigit c = false := hcs c rfl
    rw [List.takeWhile_cons_of_neg (by simp [hc]), List.dropWhile_cons_of_neg (by simp [hc]), List.append_nil]

/-- Taking digits loses nothing, takes nothing but digits and leaves none. -/
theorem takeDigits_spec (cs : List Char) : (takeDigits cs).1 ++ (takeDigits cs).2 = cs ∧
    (∀ c ∈ (takeDigits cs).1, isPlainDigit c = true) ∧ NoDigitFirst (takeDigits cs).2 := by
  refine ⟨List.takeWhile_append_dropWhile, List.all_eq_true.mp (List.all_takeWhile (l := cs)), fun c hc => ?_⟩
  have := List.head?_dropWhile_not isPlainDigit cs
  unfold takeDigits at hc
  rw [Option.mem_def.mp hc] at this
  simpa using this

end GridWalk.Command
