import GridWalk.Command.Reader
import GridWalk.Proofs.Command.Count

/-! How a text is scanned, told without the scanner's matches: what a move and a loop at the beginning of
    a text look like, one equation for each thing the scanner meets, and which readings are clean. -/

namespace GridWalk.Command
open Text

/-! ### Moves and loops at the beginning of a text -/

theorem readMove_eq_some_iff {cs rest : List Char} {m : Move} :
    readMove cs = some (m, rest) ↔ ∃ digits, cs = m.direction.symbol :: (digits ++ rest) ∧
      (∀ c ∈ digits, isPlainDigit c = true) ∧ NoDigitFirst rest ∧
      m.steps = min (decimalNumber digits) oversizedCount := by
  constructor
  · intro h
    unfold readMove at h
    split at h
    · cases h
    · rename_i c tail
      split at h
      · cases h
      · rename_i d hd
        simp only [Option.dite_none_right_eq_some, Option.some.injEq, Prod.mk.injEq] at h
        obtain ⟨_, rfl, rfl⟩ := h
        obtain ⟨happ, hdigits, hrest⟩ := takeDigits_spec tail
        refine ⟨(takeDigits tail).1, ?_, hdigits, hrest, countOf_eq_min hdigits⟩
        rw [happ, Direction.ofSymbol?_eq_some_iff.mp hd]
  · rintro ⟨digits, rfl, hdigits, hrest, hsteps⟩
    have hcount : countOf digits = m.steps := (countOf_eq_min hdigits).trans hsteps.symm
    unfold readMove
    simp only [Direction.ofSymbol?_symbol, takeDigits_append hdigits hrest, hcount, m.steps_pos, dite_true]

theorem readFrame_eq_ok_iff {cs : List Char} {f : LoopFrame} :
    readFrame cs = .ok f ↔ ∃ digits, splitClosing 0 cs = some (f.body, 'X' :: (digits ++ f.rest)) ∧
      (∀ c ∈ digits, isPlainDigit c = true) ∧ NoDigitFirst f.rest ∧ f.times = decimalNumber digits ∧
      1 ≤ f.times ∧ f.times < oversizedCount := by
  constructor
  · intro h
    unfold readFrame at h
    split at h
    · cases h
    · rename_i body after hsplit
      obtain ⟨happ, hdigits, hrest⟩ := takeDigits_spec after
      have hcount := countOf_eq_min hdigits
      simp only at h
      split at h
      · cases h
      · split at h
        · cases h
        · split at h
          · cases h
          · rename_i hzero hlarge
            simp only [Except.ok.injEq] at h
            subst h
            refine ⟨(takeDigits after).1, by rw [hsplit, happ], hdigits, hrest, ?_, ?_, ?_⟩ <;>
              simp only <;> omega
    · cases h
  · rintro ⟨digits, hsplit, hdigits, hrest, htimes, hpos, hlt⟩
    have hcount := countOf_eq_min hdigits
    have hnum : countOf digits = f.times := by omega
    have hne : digits.isEmpty = false := by
      cases digits with
      | nil =>
        rw [decimalNumber_nil] at htimes
        omega
      | cons => rfl
    unfold readFrame
    rw [hsplit]
    simp only [takeDigits_append hdigits hrest, hne, hnum, Bool.false_eq_true, if_false]
    rw [if_neg (by omega), if_neg (by omega)]

/-! ### The scanner's equations -/

theorem scan_nil : scan [] = {} := by
  rw [scan]

theorem scan_comma (rest : List Char) : scan (',' :: rest) = scan rest := by
  rw [scan]

theorem scan_badLoop {rest : List Char} {fault : Fault} (h : readFrame rest = .error fault) :
    scan ('(' :: rest) = Reading.faulty fault ++ scan rest := by
  rw [scan]
  split
  · rename_i fault' h'
    rw [h] at h'
    cases h'
    rfl
  · rename_i f h'
    rw [h] at h'
    cases h'

theorem scan_emptyLoop {rest : List Char} {f : LoopFrame} (h : readFrame rest = .ok f)
    (hempty : (scan f.body).terms.writtenMoves = []) :
    scan ('(' :: rest) = (scan f.body).asBody ++ (Reading.faulty .emptyLoop ++ scan rest) := by
  rw [scan]
  split
  · rename_i fault h'
    rw [h] at h'
    cases h'
  · rename_i f' h'
    rw [h] at h'
    cases h'
    simp only [hempty, List.isEmpty_nil, if_true]

theorem scan_loop {rest : List Char} {f : LoopFrame} (h : readFrame rest = .ok f)
    (hne : (scan f.body).terms.writtenMoves ≠ []) :
    scan ('(' :: rest) = (scan f.body).asBody ++
      (Reading.single (.loop (scan f.body).terms.writtenMoves f.times) (lacksComma f.rest) ++ scan f.rest) := by
  rw [scan]
  split
  · rename_i fault h'
    rw [h] at h'
    cases h'
  · rename_i f' h'
    rw [h] at h'
    cases h'
    simp only [List.isEmpty_iff, hne, if_false]

theorem scan_badToken {c : Char} {rest : List Char} (hcomma : c ≠ ',') (hopen : c ≠ '(')
    (h : readMove (c :: rest) = none) : scan (c :: rest) = Reading.faulty .badToken ++ scan rest := by
  rw [scan]
  · split
    · rfl
    · rename_i h'
      rw [h] at h'
      cases h'
  · exact hcomma
  · exact hopen

theorem scan_move {cs rest : List Char} {m : Move} (h : readMove cs = some (m, rest)) :
    scan cs = Reading.single (.move m) (lacksComma rest) ++ scan rest := by
  obtain ⟨digits, rfl, -⟩ := readMove_eq_some_iff.mp h
  rw [scan]
  · split
    · rename_i h'
      rw [h] at h'
      cases h'
    · rename_i h'
      rw [h] at h'
      cases h'
      rfl
  · cases m.direction <;> decide
  · cases m.direction <;> decide

/-! ### Clean readings -/

namespace Reading

/-- Nothing is wrong with the text that was read. -/
def Clean (r : Reading) (requireComma : Bool) : Prop :=
  (r.flags requireComma).missingComma = false ∧ (r.flags requireComma).fault = none

variable {requireComma : Bool}

theorem clean_iff {r : Reading} :
    r.Clean requireComma ↔ (requireComma && r.missingComma) = false ∧ r.fault = none := Iff.rfl

theorem clean_empty : Clean {} requireComma := ⟨Bool.and_false _, rfl⟩

theorem clean_append {r s : Reading} :
    (r ++ s).Clean requireComma ↔ r.Clean requireComma ∧ s.Clean requireComma := by
  simp only [clean_iff, append_missingComma, append_fault, Bool.and_or_distrib_left, Bool.or_eq_false_iff,
    Option.orElse_eq_orElse, Option.orElse_eq_or, Option.or_eq_none_iff]
  exact and_and_and_comm

theorem not_clean_faulty (fault : Fault) : ¬(faulty fault).Clean requireComma := fun h => by
  cases h.2

theorem clean_single {t : Term} {missing : Bool} :
    (single t missing).Clean requireComma ↔ (requireComma && missing) = false :=
  ⟨fun h => h.1, fun h => ⟨h, rfl⟩⟩

theorem clean_asBody {r : Reading} : r.asBody.Clean requireComma ↔ r.Clean requireComma := Iff.rfl

end Reading
end GridWalk.Command
