import GridWalk.Proofs.Level.Generated
import GridWalk.Proofs.Level.Names
import GridWalk.Proofs.Number.Digits
import GridWalk.Proofs.Number.Magnitude

/-! Loading a level by a name. A name of decimal digits is the number of a level from one on; any other name has to stand
    in the catalog, and is refused as unknown if it does not. Between the two lie the names of digits among which one is
    not decimal: they count as numbers, but write none. -/

namespace GridWalk.Level
open Text Generator Random

/-- The names of levels: those of the catalog, and the decimal digits of a number from one on. -/
inductive NamesLevel (name : String) : Prop
  | builtIn (h : name ∈ Catalog.names)
  | numbered (hne : name ≠ "") (hdecimal : ∀ c ∈ name.toList, (decimalValue? c).isSome = true)
      (hpos : ∃ c ∈ name.toList, decimalValue? c ≠ some 0)

/-- A name of digits, one of which has no decimal value, such as a superscript. -/
structure Undecimal (name : String) : Prop where
  digits : isNumberName name = true
  undecimal : ∃ c ∈ name.toList, decimalValue? c = none

/-- Why a name that names no level is refused. -/
def refusal (name : String) : LevelError := if isNumberName name then .numberTooSmall 0 else .unknownName name

theorem namesLevel_iff {name : String} : NamesLevel name ↔ name ∈ Catalog.names ∨
    name ≠ "" ∧ (name.toList.all fun c => (decimalValue? c).isSome) = true ∧
      (name.toList.any fun c => decimalValue? c != some 0) = true := by
  simp only [List.all_eq_true, List.any_eq_true, bne_iff_ne]
  constructor
  · rintro (hbuiltIn | ⟨hne, hdecimal, hpos⟩)
    · exact .inl hbuiltIn
    · exact .inr ⟨hne, hdecimal, hpos⟩
  · rintro (hbuiltIn | ⟨hne, hdecimal, hpos⟩)
    · exact .builtIn hbuiltIn
    · exact .numbered hne hdecimal hpos

theorem undecimal_iff {name : String} : Undecimal name ↔
    isNumberName name = true ∧ (name.toList.any fun c => (decimalValue? c).isNone) = true := by
  simp only [List.any_eq_true, Option.isNone_iff_eq_none]
  exact ⟨fun ⟨hdigits, hnone⟩ => ⟨hdigits, hnone⟩, fun ⟨hdigits, hnone⟩ => ⟨hdigits, hnone⟩⟩

instance (name : String) : Decidable (NamesLevel name) := decidable_of_iff' _ namesLevel_iff

instance (name : String) : Decidable (Undecimal name) := decidable_of_iff' _ undecimal_iff

theorem isNumberName_of_decimal {name : String} (hne : name ≠ "")
    (hdecimal : ∀ c ∈ name.toList, (decimalValue? c).isSome = true) : isNumberName name = true := by
  have hdigits : ∀ c ∈ name.toList, isDigit c = true := fun c hc => isDigit_of_decimal (hdecimal c hc)
  simpa [isNumberName, isDigits, hne] using hdigits

theorem not_number_of_mem_names : ∀ name ∈ Catalog.names, isNumberName name = false := by
  decide +kernel

theorem Undecimal.not_namesLevel {name : String} (h : Undecimal name) : ¬NamesLevel name := by
  obtain ⟨hdigits, c, hc, hnone⟩ := h
  rintro (hbuiltIn | ⟨-, hdecimal, -⟩)
  · rw [not_number_of_mem_names name hbuiltIn] at hdigits
    cases hdigits
  · have hsome := hdecimal c hc
    rw [hnone] at hsome
    cases hsome

/-! ### The catalog -/

theorem exists_level_of_mem_names {name : String} (h : name ∈ Catalog.names) : ∃ l, Catalog.level name = .ok l := by
  have hall : ∀ name ∈ Catalog.names, (Catalog.level name).toOption.isSome = true := by decide +kernel
  exact exists_eq_ok (hall name h)

theorem loadWithin_of_mem_names {name : String} (h : name ∈ Catalog.names) :
    ∃ l, ∀ bound seeding, loadWithin bound name seeding = .ok l := by
  obtain ⟨l, hl⟩ := exists_level_of_mem_names h
  refine ⟨l, fun bound seeding => ?_⟩
  rw [loadWithin, not_number_of_mem_names name h, if_neg Bool.false_ne_true, hl]
  rfl

/-! ### Numbers -/

theorem decimalNumber_plain_pos_iff {cs : List Char} (hdecimal : ∀ c ∈ cs, (decimalValue? c).isSome = true) :
    0 < decimalNumber (cs.map NumberText.plainDigit) ↔ ∃ c ∈ cs, decimalValue? c ≠ some 0 := by
  have hvalue : ∀ c ∈ cs, digitValue (NumberText.plainDigit c) = 0 ↔ decimalValue? c = some 0 := by
    intro c hc
    obtain ⟨d, hd⟩ := Option.isSome_iff_exists.mp (hdecimal c hc)
    rw [NumberText.plainDigit, hd]
    simp only [Option.some.injEq, (NumberText.digitChar_plain d (decimalValue?_lt hd)).2]
  rw [Nat.pos_iff_ne_zero, Ne, decimalNumber_eq_zero_iff, List.forall_mem_map, ← not_iff_not]
  push Not
  exact forall₂_congr hvalue

theorem decimalNumber_plain_lt {cs : List Char} (hdecimal : ∀ c ∈ cs, (decimalValue? c).isSome = true) :
    decimalNumber (cs.map NumberText.plainDigit) < 10 ^ cs.length := by
  rw [← List.length_map NumberText.plainDigit]
  refine decimalNumber_lt (List.forall_mem_map.mpr fun c hc => ?_)
  rw [NumberText.isPlainDigit_plainDigit (isDigit_of_decimal (hdecimal c hc)), hdecimal c hc]

section
variable {number size : Int} (hsize : minSize ≤ size) (hnumber : number.natAbs ≤ 10 ^ 300)
include hsize hnumber

/-- A level whose number is not too large is generated the same wherever more may be drawn, or the draws run out. -/
theorem generateWithin_or_outOfDraws {σ : Type} (source : Nat → DrawSource σ)
    (hsource : ∀ {bound more}, bound ≤ more → Covers (source more) (source bound)) (s : σ) (bound : Nat) :
    (∃ l, ∀ more, bound ≤ more → (generateWithin more (source more) size number s).map (·.1) = .ok l) ∨
      (generateWithin bound (source bound) size number s).map (·.1) = .error .outOfDraws := by
  cases hresult : generateWithin bound (source bound) size number s with
  | ok r =>
    refine .inl ⟨r.1, fun more hle => ?_⟩
    rw [generateWithin_of_covers hresult (hsource hle) hle]
    rfl
  | error e =>
    obtain ⟨kinds, hkinds⟩ := exists_obstacleKinds hnumber
    have he : e = .outOfDraws := by
      cases (generateWithin_gives bound (source bound) size number s).1 e hresult with
      | sizeTooSmall hsmall => omega
      | number herror =>
        rw [hkinds] at herror
        cases herror
      | outOfDraws => rfl
    rw [he]
    exact .inr rfl

theorem generatedWithin_or_outOfDraws (seeding : Seeding) (bound : Nat) :
    (∃ l, ∀ more, bound ≤ more → generatedWithin more number size seeding = .ok l) ∨
      generatedWithin bound number size seeding = .error .outOfDraws := by
  -- Whether a seed is given decides which source is drawn from, and nothing else.
  unfold generatedWithin
  cases seeding.seed with
  | some seed => exact generateWithin_or_outOfDraws hsize hnumber Twister.source twister_covers (.ofSeed seed) bound
  | none =>
    let source (_ : Nat) := streaming (seeding.fresh 0)
    exact generateWithin_or_outOfDraws hsize hnumber source (fun _ => .refl _) 0 bound

end

/-! ### Loading -/

section
variable {name : String} (hshort : name.length ≤ 300) (seeding : Seeding) (bound : Nat)
include hshort

theorem loadWithin_of_digits (hdigits : isNumberName name = true) : loadWithin bound name seeding =
    if name.toList.all fun c => (decimalValue? c).isSome
      then numberedWithin bound (decimalNumber (name.toList.map NumberText.plainDigit)) seeding
      else .error (.number (.notWhole name)) := by
  have hlength : name.toList.length ≤ maxDigits := by
    rw [String.length_toList]
    exact hshort.trans (by decide)
  rw [loadWithin, if_pos hdigits, readInt_of_isDigits hdigits hlength]
  split <;> rfl

/-- A name of a level loads one, the same wherever more may be drawn, unless the draws run out. -/
theorem loadWithin_of_namesLevel (h : NamesLevel name) :
    (∃ l, ∀ more, bound ≤ more → loadWithin more name seeding = .ok l) ∨
      loadWithin bound name seeding = .error .outOfDraws := by
  cases h with
  | builtIn hbuiltIn =>
    obtain ⟨l, hl⟩ := loadWithin_of_mem_names hbuiltIn
    exact .inl ⟨l, fun more _ => hl more seeding⟩
  | numbered hne hdecimal hpos =>
    have hone := (decimalNumber_plain_pos_iff hdecimal).mpr hpos
    have hlarge : decimalNumber (name.toList.map NumberText.plainDigit) ≤ 10 ^ 300 := by
      refine (decimalNumber_plain_lt hdecimal).le.trans ?_
      rw [String.length_toList]
      gcongr
      decide
    have hnumbered : ∀ bound, loadWithin bound name seeding = generatedWithin bound
        (decimalNumber (name.toList.map NumberText.plainDigit)) standardSize seeding := by
      intro bound
      rw [loadWithin_of_digits hshort seeding bound (isNumberName_of_decimal hne hdecimal),
        if_pos (List.all_eq_true.mpr hdecimal), numberedWithin, if_neg (Int.not_lt.mpr (by exact_mod_cast hone))]
    simp only [hnumbered]
    refine generatedWithin_or_outOfDraws (by decide) ?_ seeding bound
    rwa [Int.natAbs_natCast]

theorem loadWithin_of_undecimal (h : Undecimal name) :
    loadWithin bound name seeding = .error (.number (.notWhole name)) := by
  obtain ⟨hdigits, c, hc, hnone⟩ := h
  rw [loadWithin_of_digits hshort seeding bound hdigits, if_neg]
  intro hdecimal
  simpa [hnone] using List.all_eq_true.mp hdecimal c hc

/-- Any other name is refused. -/
theorem loadWithin_of_unknown (hname : ¬NamesLevel name) (hdecimal : ¬Undecimal name) :
    loadWithin bound name seeding = .error (.level (refusal name)) := by
  unfold refusal
  split
  · rename_i hdigits
    have hall : ∀ c ∈ name.toList, (decimalValue? c).isSome = true := by
      intro c hc
      rw [Option.isSome_iff_ne_none]
      exact fun hnone => hdecimal ⟨hdigits, c, hc, hnone⟩
    have hne : name ≠ "" := by
      rintro rfl
      cases hdigits
    have hzero : decimalNumber (name.toList.map NumberText.plainDigit) = 0 := by
      refine Nat.eq_zero_of_not_pos fun hpos => hname ?_
      exact .numbered hne hall ((decimalNumber_plain_pos_iff hall).mp hpos)
    rw [loadWithin_of_digits hshort seeding bound hdigits, if_pos (List.all_eq_true.mpr hall), hzero]
    rfl
  · rename_i hdigits
    rw [loadWithin, if_neg hdigits, level_of_notMem_names fun hbuiltIn => hname (.builtIn hbuiltIn)]
    rfl

end

end GridWalk.Level
