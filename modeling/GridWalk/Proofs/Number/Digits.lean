import GridWalk.Number.Reading
import GridWalk.Proofs.Text.Classes
import GridWalk.Proofs.Text.Decimal
import GridWalk.Proofs.Text.Pieces

/-! Reading a text of digits. No digit is a margin, a sign or an underscore, so the text is read as it stands: decimal
    digits write a number, of whatever script they are, and with a digit of another kind among them they write none. -/

namespace GridWalk

namespace Text

theorem decimalValue?_lt {c : Char} {d : Nat} (h : decimalValue? c = some d) : d < 10 := by
  obtain ⟨z, hz, rfl⟩ := Option.map_eq_some_iff.mp h
  have hrow := List.find?_some (p := fun z => decide (z ≤ c.toNat) && decide (c.toNat < z + 10)) hz
  simp only [Bool.and_eq_true, decide_eq_true_eq] at hrow
  omega

theorem isDigit_of_decimal {c : Char} (h : (decimalValue? c).isSome = true) : isDigit c = true := by
  rw [isDigit, h, Bool.true_or]

/-- Digits that are not decimal lie above the plain digits and all marks of numbers. -/
theorem le_toNat_of_undecimal {c : Char} (h : isDigit c = true) (hnone : decimalValue? c = none) : 178 ≤ c.toNat := by
  have hranges : ∀ r ∈ otherDigitRanges, 178 ≤ r.1 := by decide
  simp only [isDigit, hnone, Option.isSome_none, Bool.false_or] at h
  obtain ⟨r, hr, hlow, -⟩ := inRanges_iff.mp h
  exact (hranges r hr).trans hlow

theorem decimalNumber_eq_zero_iff {ds : List Char} : decimalNumber ds = 0 ↔ ∀ c ∈ ds, digitValue c = 0 := by
  induction ds with
  | nil => simp
  | cons c ds ih =>
    have hpower : 10 ^ ds.length ≠ 0 := by simp
    rw [decimalNumber_cons, Nat.add_eq_zero_iff, Nat.mul_eq_zero, or_iff_left hpower, ih, List.forall_mem_cons]

end Text

namespace NumberText
open Text

theorem isBlank_of_isMargin {c : Char} (h : isMargin c = true) : isBlank c = true := by
  unfold isMargin at h
  split at h
  · have hlow : c = ' ' ∨ 9 ≤ c.toNat ∧ c.toNat ≤ 13 := by simpa using h
    rcases hlow with rfl | ⟨hle, hge⟩
    · decide
    · exact inRanges_iff.mpr ⟨(9, 13), by decide, hle, hge⟩
  · exact h

/-- The plain form of a digit: a plain digit of its value, or the digit itself if it is not decimal. -/
theorem plainDigit_cases {c : Char} (h : isDigit c = true) :
    (∃ d < 10, decimalValue? c = some d ∧ plainDigit c = Nat.digitChar d) ∨
      decimalValue? c = none ∧ plainDigit c = c ∧ 178 ≤ c.toNat := by
  unfold plainDigit
  cases hvalue : decimalValue? c with
  | none => exact .inr ⟨rfl, rfl, le_toNat_of_undecimal h hvalue⟩
  | some d => exact .inl ⟨d, decimalValue?_lt hvalue, rfl, rfl⟩

theorem digitChar_plain : ∀ d < 10, isPlainDigit (Nat.digitChar d) = true ∧ digitValue (Nat.digitChar d) = d := by
  decide

theorem isPlainDigit_plainDigit {c : Char} (h : isDigit c = true) :
    isPlainDigit (plainDigit c) = (decimalValue? c).isSome := by
  rcases plainDigit_cases h with ⟨d, hlt, hvalue, hplain⟩ | ⟨hvalue, hplain, hle⟩
  · rw [hplain, hvalue, (digitChar_plain d hlt).1, Option.isSome_some]
  · rw [hplain, hvalue, Option.isSome_none, Bool.eq_false_iff]
    intro hdigit
    have hnine := (isPlainDigit_iff.mp hdigit).2
    have : '9'.toNat = 57 := rfl
    omega

theorem plainDigit_not_mark {c m : Char} (h : isDigit c = true) (hm : m ∈ ['-', '+', '_']) : plainDigit c ≠ m := by
  rcases plainDigit_cases h with ⟨d, hlt, -, hplain⟩ | ⟨-, hplain, hle⟩
  · have hdigits : ∀ d < 10, Nat.digitChar d ∉ ['-', '+', '_'] := by decide
    rw [hplain]
    rintro rfl
    exact hdigits d hlt hm
  · have hlow : m.toNat < 178 := by
      simp only [List.mem_cons, List.not_mem_nil, or_false] at hm
      rcases hm with rfl | rfl | rfl <;> decide
    rw [hplain]
    rintro rfl
    omega

theorem takeSign_eq {cs : List Char} (h : ∀ c ∈ cs, c ≠ '-' ∧ c ≠ '+') : takeSign cs = (false, cs) := by
  unfold takeSign
  split
  · exact absurd rfl (h _ List.mem_cons_self).1
  · exact absurd rfl (h _ List.mem_cons_self).2
  · rfl

theorem withoutUnderscores_of_notMem {cs : List Char} (h : '_' ∉ cs) : withoutUnderscores? cs = some cs := by
  induction cs using withoutUnderscores?.induct with
  | case1 => rfl
  | case2 => exact absurd List.mem_cons_self h
  | case3 | case4 => simp at h
  | case5 c cs hscore hbetween ih =>
    rw [withoutUnderscores?.eq_4 c cs hscore hbetween, ih fun hc => h (List.mem_cons_of_mem _ hc)]
    rfl

theorem digitRun_eq {cs : List Char} (h : '_' ∉ cs) : digitRun cs = cs.takeWhile isPlainDigit := by
  have hsame : ∀ c ∈ cs, (isPlainDigit c || c == '_') = isPlainDigit c := by
    intro c hc
    have hne : c ≠ '_' := fun he => h (he ▸ hc)
    simp [hne]
  unfold digitRun
  clear h
  induction cs with
  | nil => rfl
  | cons c cs ih =>
    rw [List.takeWhile_cons, List.takeWhile_cons, hsame c List.mem_cons_self,
      ih fun d hd => hsame d (List.mem_cons_of_mem _ hd)]

theorem plain_of_digits {cs : List Char} (h : ∀ c ∈ cs, isDigit c = true) : plain cs = cs.map plainDigit := by
  rw [plain, trimming_eq_self]
  intro c hc
  rw [Bool.eq_false_iff]
  intro hmargin
  have hblank := isBlank_of_isMargin hmargin
  rw [not_isBlank_of_isDigit (h c hc)] at hblank
  cases hblank

end NumberText

open Text NumberText

/-- A text without signs and underscores writes a number if it has plain digits alone. -/
theorem readInt_of_unmarked {text : String} {ds : List Char} (hplain : plain text.toList = ds)
    (hmarks : ∀ d ∈ ds, ∀ m ∈ ['-', '+', '_'], d ≠ m) (hne : ds ≠ []) (hshort : ds.length ≤ maxDigits) :
    readInt text = if ds.all isPlainDigit then .ok (decimalNumber ds) else .error (.notWhole text) := by
  have hsign : takeSign ds = (false, ds) :=
    takeSign_eq fun d hd => ⟨hmarks d hd _ (by simp), hmarks d hd _ (by simp)⟩
  have hscore : '_' ∉ ds := fun h => hmarks _ h _ (by simp) rfl
  have hrun : digitRun ds = ds.takeWhile isPlainDigit := digitRun_eq hscore
  have hsub : (ds.takeWhile isPlainDigit).Sublist ds := List.takeWhile_sublist _
  have hsame : withoutUnderscores? (ds.takeWhile isPlainDigit) = some (ds.takeWhile isPlainDigit) :=
    withoutUnderscores_of_notMem fun h => hscore (hsub.subset h)
  unfold readInt
  rw [hplain, hsign]
  simp only
  rw [hrun, hsame]
  by_cases hdecimal : ds.all isPlainDigit = true
  · have hall := List.all_eq_true.mp hdecimal
    obtain ⟨d, ds, rfl⟩ := List.exists_cons_of_ne_nil hne
    rw [if_pos hdecimal, List.takeWhile_eq_self_iff.mpr hall]
    simp only
    rw [if_neg (Nat.not_lt.mpr hshort)]
    simp
  · -- The run of plain digits ends before the text does.
    rw [if_neg hdecimal]
    have hshorter : ds.length ≠ (ds.takeWhile isPlainDigit).length :=
      fun he => hdecimal (List.all_eq_true.mpr (List.takeWhile_eq_self_iff.mp (hsub.eq_of_length he.symm)))
    have hle := hsub.length_le
    generalize ds.takeWhile isPlainDigit = run at *
    cases run with
    | nil => rfl
    | cons d run =>
      simp only
      rw [if_neg (by omega), if_pos hshorter]

/-- A text of digits writes a number if all of them are decimal ones. -/
theorem readInt_of_isDigits {text : String} (hdigits : isDigits text.toList = true)
    (hshort : text.toList.length ≤ maxDigits) :
    readInt text = if text.toList.all fun c => (decimalValue? c).isSome
      then .ok (decimalNumber (text.toList.map plainDigit)) else .error (.notWhole text) := by
  obtain ⟨hne, hall⟩ : text.toList ≠ [] ∧ ∀ c ∈ text.toList, isDigit c = true := by
    simpa [isDigits] using hdigits
  have hdecimal : (text.toList.map plainDigit).all isPlainDigit = text.toList.all fun c => (decimalValue? c).isSome := by
    rw [Bool.eq_iff_iff, List.all_eq_true, List.all_eq_true, List.forall_mem_map]
    exact forall₂_congr fun c hc => by rw [isPlainDigit_plainDigit (hall c hc)]
  rw [readInt_of_unmarked (plain_of_digits hall) ?_ (by simpa using hne) (by simpa using hshort), hdecimal]
  intro d hd m hm
  obtain ⟨c, hc, rfl⟩ := List.mem_map.mp hd
  exact plainDigit_not_mark (hall c hc) hm

end GridWalk
