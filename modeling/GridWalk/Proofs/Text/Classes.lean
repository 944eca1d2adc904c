import GridWalk.Text.Classes

/-! The classes of characters by their ranges. Two classes are told apart by their ranges alone: no digit is a blank, and
    whatever ends a line is one. -/

namespace GridWalk.Text

variable {c : Char} {ranges others : List (Nat × Nat)}

/-- No range of the one class of characters meets a range of the other. -/
def RangesApart (ranges others : List (Nat × Nat)) : Prop :=
  ∀ r ∈ ranges, ∀ r' ∈ others, r.2 < r'.1 ∨ r'.2 < r.1

instance : Decidable (RangesApart ranges others) :=
  inferInstanceAs (Decidable (∀ r ∈ ranges, ∀ r' ∈ others, r.2 < r'.1 ∨ r'.2 < r.1))

theorem inRanges_iff : inRanges ranges c = true ↔ ∃ r ∈ ranges, r.1 ≤ c.toNat ∧ c.toNat ≤ r.2 := by
  simp [inRanges]

theorem RangesApart.not_both (h : RangesApart ranges others) (hc : inRanges ranges c = true) :
    inRanges others c = false := by
  rw [Bool.eq_false_iff]
  intro hc'
  obtain ⟨r, hr, hlo, hhi⟩ := inRanges_iff.mp hc
  obtain ⟨r', hr', hlo', hhi'⟩ := inRanges_iff.mp hc'
  rcases h r hr r' hr' with hlt | hlt
  · omega
  · omega

/-- The ranges of all digits. -/
def digitRanges : List (Nat × Nat) := decimalZeros.map (fun z => (z, z + 9)) ++ otherDigitRanges

theorem isDigit_eq (c : Char) : isDigit c = inRanges digitRanges c := by
  have hdecimal : (decimalValue? c).isSome = inRanges (decimalZeros.map fun z => (z, z + 9)) c := by
    rw [Bool.eq_iff_iff, decimalValue?, Option.isSome_map, List.find?_isSome]
    simp [inRanges, Nat.lt_succ_iff]
  rw [isDigit, hdecimal, digitRanges, inRanges, inRanges, inRanges, List.any_append]

theorem not_isBlank_of_isDigit (h : isDigit c = true) : isBlank c = false :=
  RangesApart.not_both (by decide +kernel) (isDigit_eq c ▸ h)

theorem isBlank_of_endsLine (h : endsLine c = true) : isBlank c = true := by
  have hwithin : ∀ r ∈ [(10, 13), (28, 30), (133, 133), (8232, 8233)], ∃ r' ∈ blankRanges, r'.1 ≤ r.1 ∧ r.2 ≤ r'.2 := by
    decide
  obtain ⟨r, hr, hlo, hhi⟩ := inRanges_iff.mp h
  obtain ⟨r', hr', hlo', hhi'⟩ := hwithin r hr
  exact inRanges_iff.mpr ⟨r', hr', Nat.le_trans hlo' hlo, Nat.le_trans hhi hhi'⟩

end GridWalk.Text
