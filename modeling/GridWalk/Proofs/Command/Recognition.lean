import GridWalk.Proofs.Command.Grammar
import GridWalk.Proofs.Command.Scanning

/-! Reading recognises the grammar. A reading is clean exactly when the text, without blanks and in
    capitals, is a text of the grammar, and then it yields the program that the text means. Whatever else
    stands in a text leaves a flag, so nothing that was skipped goes unnoticed. -/

namespace GridWalk.Command
open Text

variable {requireComma : Bool}

/-! ### From clean readings to the grammar -/

theorem readMove_close (rest : List Char) : readMove (')' :: rest) = none := rfl

/-- A closing bracket in front of which no loop is open is a bad token. -/
theorem not_clean_close (rest : List Char) : ¬(scan (')' :: rest)).Clean requireComma := by
  rw [scan_badToken (by decide) (by decide) (readMove_close rest), Reading.clean_append]
  exact fun h => Reading.not_clean_faulty _ h.1

/-- Where no comma is missing and the rest is clean, the rest begins with a comma or has no term. -/
theorem separated_of_clean {cs : List Char} (hcomma : (requireComma && lacksComma cs) = false)
    (hrest : (scan cs).Clean requireComma) : Separated requireComma cs (scan cs).terms := by
  intro hreq hne
  rw [hreq, Bool.true_and] at hcomma
  cases cs with
  | nil => exact absurd (by rw [scan_nil]) hne
  | cons c cs =>
    by_cases hclose : c = ')'
    · subst hclose
      exact absurd hrest (not_clean_close cs)
    · have hc : c = ',' := by simpa [lacksComma, hclose] using hcomma
      rw [hc, List.head?_cons]

theorem derives_of_clean (cs : List Char) :
    (scan cs).Clean requireComma → Derives requireComma cs (scan cs).terms := by
  -- By the cases of the scanner; wherever it skips something, the fault it notes contradicts a clean reading.
  induction cs using scan.induct with
  | case1 =>
    intro _
    rw [scan_nil]
    exact .nil
  | case2 rest ih =>
    rw [scan_comma]
    exact fun h => .comma (ih h)
  | case3 rest fault hf ih =>
    rw [scan_badLoop hf, Reading.clean_append]
    exact fun h => absurd h.1 (Reading.not_clean_faulty fault)
  | case4 rest f hf _ body hempty ihb ih =>
    rw [scan_emptyLoop hf (List.isEmpty_iff.mp hempty), Reading.clean_append, Reading.clean_append]
    exact fun h => absurd h.2.1 (Reading.not_clean_faulty .emptyLoop)
  | case5 rest f hf _ body hne ihb ih =>
    have hmoves : (scan f.body).terms.writtenMoves ≠ [] := fun h => hne (List.isEmpty_iff.mpr h)
    rw [scan_loop hf hmoves, Reading.clean_append, Reading.clean_append, Reading.clean_asBody,
      Reading.clean_single]
    rintro ⟨hbody, hcomma, hrest⟩
    obtain ⟨digits, hsplit, hdigits, -, htimes, hpos, hlt⟩ := readFrame_eq_ok_iff.mp hf
    have hterms : (scan f.body).terms ≠ [] := fun h => hmoves (by rw [h]; rfl)
    have hle : decimalNumber digits ≤ 999999 := by
      rw [← htimes]
      exact Nat.le_of_lt_succ hlt
    have := Derives.loop (ihb hbody) hterms hdigits (htimes ▸ hpos) hle (separated_of_clean hcomma hrest) (ih hrest)
    rw [eq_append_of_splitClosing hsplit, htimes]
    exact this
  | case6 c rest hcomma hopen hm ih =>
    rw [scan_badToken hcomma hopen hm, Reading.clean_append]
    exact fun h => absurd h.1 (Reading.not_clean_faulty .badToken)
  | case7 c rest _ _ m after hm _ ih =>
    rw [scan_move hm, Reading.clean_append, Reading.clean_single]
    rintro ⟨hcomma, hrest⟩
    obtain ⟨digits, heq, hdigits, -, hsteps⟩ := readMove_eq_some_iff.mp hm
    rw [heq]
    exact .move hdigits hsteps (separated_of_clean hcomma hrest) (ih hrest)

/-! ### From the grammar to clean readings -/

theorem lacksComma_of_separated {cs : List Char} {p : Program} (h : Derives requireComma cs p)
    (hsep : Separated requireComma cs p) : (requireComma && lacksComma cs) = false := by
  rw [Bool.and_eq_false_iff, or_iff_not_imp_left, Bool.not_eq_false]
  intro hreq
  cases h with
  | nil => rfl
  | comma => rfl
  | move =>
    have := hsep hreq (List.cons_ne_nil _ _)
    simp [lacksComma, Option.some.inj this]
  | loop => exact absurd (hsep hreq (List.cons_ne_nil _ _)) (by simp)

theorem readMove_of_number {m : Move} {digits cs : List Char} (hd : ∀ c ∈ digits, isPlainDigit c = true)
    (hcs : NoDigitFirst cs) (hm : m.steps = min (decimalNumber digits) oversizedCount) :
    readMove (m.direction.symbol :: (digits ++ cs)) = some (m, cs) :=
  readMove_eq_some_iff.mpr ⟨digits, rfl, hd, hcs, hm⟩

/-- A text of the grammar is read without a flag and yields its program. -/
theorem Derives.clean_scan {cs : List Char} {p : Program} (h : Derives requireComma cs p) :
    (scan cs).Clean requireComma ∧ (scan cs).terms = p := by
  induction h with
  | nil =>
    rw [scan_nil]
    exact ⟨Reading.clean_empty, rfl⟩
  | comma _ ih =>
    rw [scan_comma]
    exact ih
  | move hd hm hsep hrest ih =>
    obtain ⟨hclean, hterms⟩ := ih
    rw [scan_move (readMove_of_number hd hrest.noDigitFirst hm), Reading.clean_append, Reading.clean_single]
    exact ⟨⟨lacksComma_of_separated hrest hsep, hclean⟩, by rw [Reading.append_terms, hterms]; rfl⟩
  | @loop body digits cs q p hq hne hd hpos hle hsep hrest ihq ih =>
    obtain ⟨hcleanq, htermsq⟩ := ihq
    obtain ⟨hclean, hterms⟩ := ih
    have hf : readFrame (body ++ ')' :: 'X' :: (digits ++ cs)) = .ok ⟨body, decimalNumber digits, cs⟩ :=
      readFrame_eq_ok_iff.mpr ⟨digits, hq.splitClosing_append _, hd, hrest.noDigitFirst, rfl, hpos,
        Nat.lt_succ_of_le hle⟩
    have hmoves : (scan body).terms.writtenMoves ≠ [] := by
      rw [htermsq]
      exact hq.writtenMoves_ne_nil hne
    rw [scan_loop hf hmoves, Reading.clean_append, Reading.clean_append, Reading.clean_asBody,
      Reading.clean_single]
    refine ⟨⟨hcleanq, lacksComma_of_separated hrest hsep, hclean⟩, ?_⟩
    simp only [Reading.append_terms, hterms, htermsq]
    rfl

theorem derives_iff {cs : List Char} {p : Program} :
    Derives requireComma cs p ↔ (scan cs).Clean requireComma ∧ (scan cs).terms = p := by
  refine ⟨Derives.clean_scan, ?_⟩
  rintro ⟨hclean, rfl⟩
  exact derives_of_clean cs hclean

/-- Reading a text leaves no flag exactly when the text belongs to the grammar, however deep its loops are
    nested, and the program it then yields is the one that the text means. -/
theorem read_clean_iff_mem_language (text : String) (requireComma : Bool) :
    (((read text).flags requireComma).missingComma = false ∧ ((read text).flags requireComma).fault = none ↔
        normalize text ∈ language requireComma) ∧
      ∀ p, Derives requireComma (normalize text) p → (read text).terms = p := by
  refine ⟨⟨fun h => ⟨_, derives_of_clean _ h⟩, ?_⟩, fun p hp => (derives_iff.mp hp).2⟩
  rintro ⟨p, hp⟩
  exact (derives_iff.mp hp).1

end GridWalk.Command
