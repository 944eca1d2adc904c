import GridWalk.Proofs.Command.Brackets
import GridWalk.Proofs.Command.Noting

/-! Texts with a comma between them. A comma ends whatever stands in front of it: a number, a move, a loop behind its
    closing bracket. So unless a bracket is left open, the text in front of a comma is read as if it stood alone, even
    where it is faulty, and the text behind it as well. -/

namespace GridWalk.Command

variable {cs ds : List Char}

/-! ### What a comma ends -/

theorem takeDigits_comma (cs ds : List Char) :
    takeDigits (cs ++ ',' :: ds) = ((takeDigits cs).1, (takeDigits cs).2 ++ ',' :: ds) := by
  obtain ⟨happ, hdigits, hrest⟩ := takeDigits_spec cs
  have hcomma : NoDigitFirst ((takeDigits cs).2 ++ ',' :: ds) := by
    intro c hc
    cases hafter : (takeDigits cs).2 with
    | nil =>
      rw [hafter] at hc
      obtain rfl := Option.some.inj hc
      rfl
    | cons d after =>
      rw [hafter] at hc hrest
      exact hrest c hc
  rw [← takeDigits_append hdigits hcomma, ← List.append_assoc, happ]

theorem lacksComma_comma (cs ds : List Char) : lacksComma (cs ++ ',' :: ds) = lacksComma cs := by
  cases cs <;> rfl

theorem readMove_comma (cs ds : List Char) :
    readMove (cs ++ ',' :: ds) = (readMove cs).map fun s => (s.1, s.2 ++ ',' :: ds) := by
  cases cs with
  | nil => rfl
  | cons c cs =>
    rw [List.cons_append, readMove, readMove, takeDigits_comma]
    cases Direction.ofSymbol? c with
    | none => rfl
    | some direction =>
      dsimp only
      split
      · rfl
      · rfl

theorem readFrame_missingTimes {body after : List Char} (h : splitClosing 0 cs = some (body, after))
    (htimes : after.head? ≠ some 'X') : readFrame cs = .error .missingTimes := by
  rw [readFrame, h]
  split
  · rename_i hnone
    cases hnone
  · rename_i hsome
    cases hsome
    exact absurd rfl htimes
  · rfl

/-- What stands behind a comma does not matter to a loop whose bracket is closed in front of it. -/
theorem readFrame_comma {body after : List Char} (h : splitClosing 0 cs = some (body, after)) (ds : List Char) :
    readFrame (cs ++ ',' :: ds) = (readFrame cs).map fun f => { f with rest := f.rest ++ ',' :: ds } := by
  have hcomma : splitClosing 0 (cs ++ ',' :: ds) = some (body, after ++ ',' :: ds) := by
    obtain ⟨rfl, hbody⟩ := splitClosing_eq_some_iff.mp h
    exact splitClosing_eq_some_iff.mpr ⟨by simp, hbody⟩
  by_cases htimes : after.head? = some 'X'
  · obtain ⟨after, rfl⟩ := List.head?_eq_some_iff.mp htimes
    rw [readFrame, readFrame, hcomma, h]
    simp only [List.cons_append, takeDigits_comma]
    split
    · rfl
    · split
      · rfl
      · split
        · rfl
        · rfl
  · have htimes' : (after ++ ',' :: ds).head? ≠ some 'X' := by
      cases after with
      | nil => simp
      | cons c after => exact htimes
    rw [readFrame_missingTimes hcomma htimes', readFrame_missingTimes h htimes]
    rfl

/-! ### What is left behind a term -/

theorem readMove_suffix {rest : List Char} {m : Move} (h : readMove cs = some (m, rest)) : rest <:+ cs := by
  obtain ⟨digits, rfl, -⟩ := readMove_eq_some_iff.mp h
  exact ⟨m.direction.symbol :: digits, by simp⟩

theorem readFrame_suffix {f : LoopFrame} (h : readFrame cs = .ok f) : f.rest <:+ cs := by
  obtain ⟨digits, hsplit, -⟩ := readFrame_eq_ok_iff.mp h
  exact ⟨f.body ++ ')' :: 'X' :: digits, by rw [eq_append_of_splitClosing hsplit]; simp⟩

/-! ### Reading -/

theorem Reading.empty_append (r : Reading) : ({} : Reading) ++ r = r := by
  change Reading.append _ _ = _
  cases r
  simp [Reading.append]

theorem Reading.append_assoc (r s t : Reading) : r ++ s ++ t = r ++ (s ++ t) := by
  change Reading.append (Reading.append _ _) _ = Reading.append _ (Reading.append _ _)
  simp [Reading.append, Bool.or_assoc, Option.or_assoc, Nat.max_assoc]

theorem scan_append_comma (h : BracketsClosed cs) (ds : List Char) : scan (cs ++ ',' :: ds) = scan cs ++ scan ds := by
  -- By the cases of the scanner, each of which goes on behind what it has met in front of the comma.
  induction cs using scan.induct with
  | case1 => rw [List.nil_append, scan_comma, scan_nil, Reading.empty_append]
  | case2 rest ih => rw [List.cons_append, scan_comma, scan_comma, ih h.tail]
  | case3 rest fault hf ih =>
    obtain ⟨body, after, hsplit⟩ := h.exists_split
    have hframe : readFrame (rest ++ ',' :: ds) = .error fault := by rw [readFrame_comma hsplit, hf]; rfl
    rw [List.cons_append, scan_badLoop hframe, scan_badLoop hf, ih h.tail, Reading.append_assoc]
  | case4 rest f hf _ body hempty ihb ih =>
    obtain ⟨body, after, hsplit⟩ := h.exists_split
    have hframe := readFrame_comma hsplit ds
    rw [hf] at hframe
    have hnone := List.isEmpty_iff.mp hempty
    rw [List.cons_append, scan_emptyLoop hframe hnone, scan_emptyLoop hf hnone, ih h.tail, Reading.append_assoc,
      Reading.append_assoc]
  | case5 rest f hf _ body hne ihb ih =>
    obtain ⟨body, after, hsplit⟩ := h.exists_split
    have hframe := readFrame_comma hsplit ds
    rw [hf] at hframe
    have hmoves : (scan f.body).terms.writtenMoves ≠ [] := fun h => hne (List.isEmpty_iff.mpr h)
    have hclosed := h.tail.of_suffix (readFrame_suffix hf)
    rw [List.cons_append, scan_loop hframe hmoves, scan_loop hf hmoves, ih hclosed, lacksComma_comma,
      Reading.append_assoc, Reading.append_assoc]
  | case6 c rest hcomma hopen hm ih =>
    have hmove : readMove (c :: (rest ++ ',' :: ds)) = none := by rw [← List.cons_append, readMove_comma, hm]; rfl
    rw [List.cons_append, scan_badToken hcomma hopen hmove, scan_badToken hcomma hopen hm, ih h.tail,
      Reading.append_assoc]
  | case7 c rest _ _ m after hm _ ih =>
    have hmove : readMove (c :: rest ++ ',' :: ds) = some (m, after ++ ',' :: ds) := by rw [readMove_comma, hm]; rfl
    rw [scan_move hmove, scan_move hm, ih (h.of_suffix (readMove_suffix hm)), lacksComma_comma, Reading.append_assoc]

theorem normalize_append_comma (s t : String) : normalize (s ++ "," ++ t) = normalize s ++ ',' :: normalize t := by
  have hcomma : normalize "," = [','] := by decide +kernel
  have happend (s t : String) : normalize (s ++ t) = normalize s ++ normalize t := by
    rw [normalize, String.toList_append, List.filter_append, Text.upper, List.flatMap_append]
    rfl
  rw [happend, happend, hcomma, List.append_assoc, List.singleton_append]

/-- Two texts with a comma between them are read one after the other, unless a bracket is left open in the first one:
    their programs follow each other, something is wrong where something is wrong with one of them, and the message is
    that of the first one that has any. -/
theorem read_append_comma (s t : String) (h : BracketsClosed (normalize s)) :
    read (s ++ "," ++ t) = read s ++ read t ∧
      ∀ requireComma,
        let first := noted requireComma s
        let second := noted requireComma t
        noted requireComma (s ++ "," ++ t) = (first.1 ++ second.1,
          { missingComma := first.2.missingComma || second.2.missingComma
            invalid := first.2.invalid || second.2.invalid
            message := first.2.message <|> second.2.message }) := by
  have hread : read (s ++ "," ++ t) = read s ++ read t := by
    rw [read, normalize_append_comma, scan_append_comma h]
    rfl
  refine ⟨hread, fun requireComma => ?_⟩
  dsimp only
  rw [noted_eq, noted_eq, noted_eq, hread, Reading.notes_append]
  rfl

theorem read_faulty_append_comma :
    let s := "D2S1(,B)x3)q"
    let t := "(D1"
    BracketsClosed (normalize s) ∧ read (s ++ "," ++ t) = read s ++ read t ∧
      ∀ requireComma,
        let first := noted requireComma s
        let second := noted requireComma t
        noted requireComma (s ++ "," ++ t) = (first.1 ++ second.1,
          { missingComma := first.2.missingComma || second.2.missingComma
            invalid := first.2.invalid || second.2.invalid
            message := first.2.message <|> second.2.message }) := by
  have hclosed : BracketsClosed (normalize "D2S1(,B)x3)q") := by decide +kernel
  exact ⟨hclosed, read_append_comma _ _ hclosed⟩

end GridWalk.Command
