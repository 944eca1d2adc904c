import GridWalk.Proofs.Command.Recognition
import GridWalk.Proofs.Command.Spelling

/-! Programs and their texts. The text of a program whose counts are within range, with blanks put in anywhere
    and capitals made small, is read as that program without a flag. Reading yields only such programs, whatever
    the text, so a program that was read is read again from its own text. -/

namespace GridWalk

/-- The steps of a move are at most a million. -/
def Move.InRange (m : Move) : Prop := m.steps ≤ 1000000

/-- A loop has a body and repeats it at least once and less than a million times. -/
def Term.InRange : Term → Prop
  | .move m => m.InRange
  | .loop body times => body ≠ [] ∧ (∀ m ∈ body, m.InRange) ∧ 1 ≤ times ∧ times ≤ 999999

/-- All terms of a program are in range. -/
def Program.InRange (p : Program) : Prop := ∀ t ∈ p, t.InRange

instance (m : Move) : Decidable m.InRange := inferInstanceAs (Decidable (m.steps ≤ 1000000))

instance : (t : Term) → Decidable t.InRange
  | .move m => inferInstanceAs (Decidable m.InRange)
  | .loop body times =>
    inferInstanceAs (Decidable (body ≠ [] ∧ (∀ m ∈ body, m.InRange) ∧ 1 ≤ times ∧ times ≤ 999999))

instance (p : Program) : Decidable p.InRange := inferInstanceAs (Decidable (∀ t ∈ p, t.InRange))

namespace Command
open Text

variable {cs ds : List Char} {p q : Program} {depth : Nat}

/-! ### The range of programs that are read -/

theorem inRange_cons {t : Term} : Program.InRange (t :: p) ↔ t.InRange ∧ p.InRange := List.forall_mem_cons

theorem inRange_writtenMoves (h : p.InRange) : ∀ m ∈ p.writtenMoves, m.InRange := by
  intro m hm
  obtain ⟨t, ht, hmt⟩ := List.mem_flatMap.mp hm
  have hrange := h t ht
  cases t with
  | move m' =>
    rw [Term.moves, List.mem_singleton] at hmt
    rw [hmt]
    exact hrange
  | loop body times => exact hrange.2.1 m hmt

theorem inRange_of_readMove {m : Move} {rest : List Char} (h : readMove cs = some (m, rest)) : m.InRange := by
  obtain ⟨digits, -, -, -, hsteps⟩ := readMove_eq_some_iff.mp h
  exact hsteps.trans_le (Nat.min_le_right _ _)

theorem inRange_scan (cs : List Char) : (scan cs).terms.InRange := by
  induction cs using scan.induct with
  | case1 =>
    rw [scan_nil]
    intro t ht
    cases ht
  | case2 rest ih =>
    rw [scan_comma]
    exact ih
  | case3 rest fault hf ih =>
    rw [scan_badLoop hf]
    exact ih
  | case4 rest f hf _ body hempty ihb ih =>
    rw [scan_emptyLoop hf (List.isEmpty_iff.mp hempty)]
    exact ih
  | case5 rest f hf _ body hne ihb ih =>
    have hmoves : (scan f.body).terms.writtenMoves ≠ [] := fun h => hne (List.isEmpty_iff.mpr h)
    obtain ⟨-, -, -, -, -, hpos, hlt⟩ := readFrame_eq_ok_iff.mp hf
    have hle : f.times ≤ 999999 := Nat.le_of_lt_succ hlt
    have hloop : Term.InRange (.loop (scan f.body).terms.writtenMoves f.times) :=
      ⟨hmoves, inRange_writtenMoves ihb, by omega, by omega⟩
    rw [scan_loop hf hmoves]
    exact inRange_cons.mpr ⟨hloop, ih⟩
  | case6 c rest hcomma hopen hm ih =>
    rw [scan_badToken hcomma hopen hm]
    exact ih
  | case7 c rest _ _ m after hm _ ih =>
    have hmove : Term.InRange (.move m) := inRange_of_readMove hm
    rw [scan_move hm]
    exact inRange_cons.mpr ⟨hmove, ih⟩

/-! ### Texts as lists of characters -/

theorem toList_moveText (m : Move) : m.text.toList = m.direction.symbol :: Nat.toDigits 10 m.steps := by
  rw [Move.text]
  simp [String.toList_append, Char.toString, toString, Nat.toList_repr]

theorem toList_loopText (body : List Move) (n : Nat) : (Term.loop body n).text.toList =
    '(' :: ((Program.text (body.map .move)).toList ++ ')' :: 'X' :: Nat.toDigits 10 n) := by
  have hcount : toString (n : Int) = Nat.repr n := rfl
  have hbody : Program.text (body.map .move) = ",".intercalate (body.map Move.text) := by
    rw [Program.text, List.map_map]
    rfl
  rw [Term.text, hbody, hcount]
  simp [String.toList_append, Nat.toList_repr]

theorem toList_text_nil : (Program.text []).toList = [] := rfl

theorem toList_text_single (t : Term) : (Program.text [t]).toList = t.text.toList := by
  rw [Program.text, String.toList_intercalate, List.map_singleton]
  exact List.intercalate_singleton

theorem toList_text_cons_cons (t u : Term) (ts : List Term) :
    (Program.text (t :: u :: ts)).toList = t.text.toList ++ ',' :: (Program.text (u :: ts)).toList := by
  rw [Program.text, String.toList_intercalate, Program.text, String.toList_intercalate]
  simp only [List.map_cons, List.intercalate_cons_cons, List.append_assoc]
  rfl

/-! ### Reading the text of a term -/

/-- The reading yields the program without a flag, with loops nested no deeper than `depth`. -/
structure Reading.Yields (r : Reading) (p : Program) (depth : Nat) : Prop where
  terms : r.terms = p
  missingComma : r.missingComma = false
  fault : r.fault = none
  depth : r.depth ≤ depth

/-- The text of the term is read as the term, whatever stands behind it, if no digit and no lack of a comma. -/
def Readable (depth : Nat) (t : Term) : Prop :=
  ∀ cs p, NoDigitFirst cs → lacksComma cs = false → (scan cs).Yields p depth →
    (scan (t.text.toList ++ cs)).Yields (t :: p) depth

theorem Reading.Yields.cons {body r : Reading} {q : Program} (hbody : body.Yields q 0) {t : Term}
    (h : r.Yields p (depth + 1)) : (body.asBody ++ (single t false ++ r)).Yields (t :: p) (depth + 1) where
  terms := congrArg (t :: ·) h.terms
  missingComma := by
    rw [append_missingComma, append_missingComma, h.missingComma]
    exact (Bool.or_false _).trans hbody.missingComma
  fault := by
    rw [append_fault, append_fault, h.fault]
    exact congrArg (· <|> none) hbody.fault
  depth := by
    have hflat : body.asBody.depth = 1 := congrArg (· + 1) (Nat.le_zero.mp hbody.depth)
    change max body.asBody.depth (max 0 r.depth) ≤ depth + 1
    have := h.depth
    omega

theorem readable_move {m : Move} (h : m.InRange) (depth : Nat) : Readable depth (.move m) := by
  intro cs p hcs hcomma hrest
  have hsteps : m.steps = min (decimalNumber (Nat.toDigits 10 m.steps)) oversizedCount := by
    rw [decimalNumber_toDigits]
    exact (Nat.min_eq_left h).symm
  have hread : readMove ((Term.move m).text.toList ++ cs) = some (m, cs) := by
    rw [Term.text, toList_moveText, List.cons_append]
    exact readMove_of_number (fun c hc => isPlainDigit_of_mem_toDigits hc) hcs hsteps
  rw [scan_move hread, hcomma]
  exact {
    terms := congrArg (Term.move m :: ·) hrest.terms
    missingComma := hrest.missingComma
    fault := hrest.fault
    depth := (Nat.max_eq_right (Nat.zero_le _)).trans_le hrest.depth }

theorem yields_text (h : ∀ t ∈ p, Readable depth t) : (scan p.text.toList).Yields p depth := by
  induction p with
  | nil =>
    rw [toList_text_nil, scan_nil]
    exact ⟨rfl, rfl, rfl, Nat.zero_le depth⟩
  | cons t ts ih =>
    have hts := ih fun u hu => h u (List.mem_cons_of_mem t hu)
    cases ts with
    | nil =>
      rw [toList_text_nil] at hts
      have ht := h t List.mem_cons_self [] [] (fun _ hc => nomatch hc) rfl hts
      rwa [List.append_nil, ← toList_text_single] at ht
    | cons u ts =>
      rw [toList_text_cons_cons]
      refine h t List.mem_cons_self _ _ ?_ rfl ?_
      · rintro _ ⟨⟩
        rfl
      · rw [scan_comma]
        exact hts

theorem yields_moves {ms : List Move} (h : ∀ m ∈ ms, m.InRange) :
    (scan (Program.text (ms.map .move)).toList).Yields (ms.map .move) 0 := by
  apply yields_text
  intro t ht
  obtain ⟨m, hm, rfl⟩ := List.mem_map.mp ht
  exact readable_move (h m hm) 0

theorem writtenMoves_map_move (ms : List Move) : Program.writtenMoves (ms.map .move) = ms := by
  rw [Program.writtenMoves, List.flatMap_map]
  exact List.flatMap_singleton' ms

/-- No bracket stands in the text of moves. -/
theorem passed_moves (ms : List Move) : Passed (Program.text (ms.map .move)).toList := by
  have hmove : ∀ m : Move, Passed m.text.toList := by
    intro m
    rw [toList_moveText]
    exact (Passed.digits fun c hc => isPlainDigit_of_mem_toDigits hc).cons (symbol_ne_open _) (symbol_ne_close _)
  induction ms with
  | nil => exact Passed.nil
  | cons m ms ih =>
    cases ms with
    | nil =>
      rw [List.map_singleton, toList_text_single]
      exact hmove m
    | cons u us =>
      rw [List.map_cons, List.map_cons, toList_text_cons_cons]
      exact (hmove m).append (ih.cons (by decide) (by decide))

theorem readable_loop {body : List Move} {n : Nat} (hne : body ≠ []) (hbody : ∀ m ∈ body, m.InRange) (hpos : 1 ≤ n)
    (hle : n ≤ 999999) (depth : Nat) : Readable (depth + 1) (.loop body n) := by
  intro cs p hcs hcomma hrest
  let text := (Program.text (body.map .move)).toList
  have hyields : (scan text).Yields (body.map .move) 0 := yields_moves hbody
  have hmoves : (scan text).terms.writtenMoves = body := by rw [hyields.terms, writtenMoves_map_move]
  have hsplit : splitClosing 0 (text ++ ')' :: 'X' :: (Nat.toDigits 10 n ++ cs)) =
      some (text, 'X' :: (Nat.toDigits 10 n ++ cs)) := by
    rw [passed_moves body, splitClosing, Option.map_some, List.append_nil]
  have hframe : readFrame (text ++ ')' :: 'X' :: (Nat.toDigits 10 n ++ cs)) = .ok ⟨text, n, cs⟩ :=
    readFrame_eq_ok_iff.mpr ⟨Nat.toDigits 10 n, hsplit, fun c hc => isPlainDigit_of_mem_toDigits hc, hcs,
      (decimalNumber_toDigits n).symm, hpos, Nat.lt_succ_of_le hle⟩
  have htext : (Term.loop body n).text.toList ++ cs = '(' :: (text ++ ')' :: 'X' :: (Nat.toDigits 10 n ++ cs)) := by
    rw [toList_loopText]
    simp only [List.cons_append, List.append_assoc, text]
  rw [htext, scan_loop hframe (hmoves.symm ▸ hne), hmoves, hcomma]
  exact hyields.cons hrest

theorem readable_of_inRange {t : Term} (h : t.InRange) : Readable 1 t := by
  cases t with
  | move m => exact readable_move h 1
  | loop body times =>
    obtain ⟨hne, hbody, hpos, hle⟩ := h
    obtain ⟨n, rfl⟩ := Int.eq_ofNat_of_zero_le (Int.le_trans (by decide) hpos)
    exact readable_loop hne hbody (by omega) (by omega) 0

/-- The text of a program within range is read as the program. -/
theorem yields_of_inRange (h : p.InRange) : (scan p.text.toList).Yields p 1 :=
  yields_text fun t ht => readable_of_inRange (h t ht)

/-! ### Reading what was written -/

theorem mem_alphabet_of_mem_moveText {m : Move} : ∀ c ∈ m.text.toList, c ∈ alphabet := by
  intro c hc
  rw [toList_moveText] at hc
  rcases List.mem_cons.mp hc with rfl | hc
  · exact symbol_mem_alphabet m.direction
  · exact digit_mem_alphabet (isPlainDigit_of_mem_toDigits hc)

/-- A program has the characters of its terms and commas. -/
theorem mem_alphabet_of_mem_text (h : ∀ t ∈ p, ∀ c ∈ t.text.toList, c ∈ alphabet) :
    ∀ c ∈ p.text.toList, c ∈ alphabet := by
  induction p with
  | nil =>
    intro c hc
    rw [toList_text_nil] at hc
    cases hc
  | cons t ts ih =>
    have ht := h t List.mem_cons_self
    have hts := ih fun u hu => h u (List.mem_cons_of_mem t hu)
    cases ts with
    | nil =>
      rw [toList_text_single]
      exact ht
    | cons u ts =>
      intro c hc
      rw [toList_text_cons_cons, List.mem_append, List.mem_cons] at hc
      rcases hc with hc | rfl | hc
      · exact ht c hc
      · decide
      · exact hts c hc

theorem mem_alphabet_of_inRange {t : Term} (h : t.InRange) : ∀ c ∈ t.text.toList, c ∈ alphabet := by
  cases t with
  | move m => exact mem_alphabet_of_mem_moveText
  | loop body times =>
    obtain ⟨-, -, hpos, -⟩ := h
    obtain ⟨n, rfl⟩ := Int.eq_ofNat_of_zero_le (Int.le_trans (by decide) hpos)
    have hbody : ∀ c ∈ (Program.text (body.map .move)).toList, c ∈ alphabet := by
      apply mem_alphabet_of_mem_text
      intro t ht
      obtain ⟨m, -, rfl⟩ := List.mem_map.mp ht
      exact mem_alphabet_of_mem_moveText
    intro c hc
    rw [toList_loopText, List.mem_cons, List.mem_append, List.mem_cons, List.mem_cons] at hc
    rcases hc with rfl | hc | rfl | rfl | hc
    · decide
    · exact hbody c hc
    · decide
    · decide
    · exact digit_mem_alphabet (isPlainDigit_of_mem_toDigits hc)

theorem Reader.read_some (r : Reader) (text : String) : r.read (some text) =
    if maxDepth < (Command.read text).depth then (.error .tooDeep, r)
    else (.ok (Command.read text).terms, { r with last := (Command.read text).flags r.options.requireComma }) := rfl

theorem Reader.read_of_yields {text : String} (h : (Command.read text).Yields p 1) (r : Reader) :
    r.read (some text) = (.ok p, { r with last := {} }) := by
  have hshallow : ¬maxDepth < (Command.read text).depth := Nat.not_lt_of_le (h.depth.trans (by decide))
  have hflags : (Command.read text).flags r.options.requireComma = {} := by
    rw [Reading.flags, h.missingComma, h.fault, Bool.and_false]
  rw [Reader.read_some, if_neg hshallow, h.terms, hflags]

/-- A program within range is read from every spelling of its text, without a flag and whether commas are required
    or not. A text that is not too deep is read as a program within range, whatever is wrong with it, and that
    program is read again from its own text. -/
theorem read_inverts_text (r : Reader) :
    (∀ (p : Program) (text : String), p.InRange → Respelled p.text.toList text.toList →
      r.read (some text) = (.ok p, { r with last := {} })) ∧
    ∀ text : String,
      (r.read (some text)).1 =
        (if maxDepth < (read text).depth then .error .tooDeep else .ok (read text).terms) ∧
      (read text).terms.InRange ∧
      r.read (some (read text).terms.text) = (.ok (read text).terms, { r with last := {} }) := by
  have hspelled : ∀ (p : Program) (text : String), p.InRange → Respelled p.text.toList text.toList →
      r.read (some text) = (.ok p, { r with last := {} }) := by
    intro p text hp htext
    apply Reader.read_of_yields
    rw [read, normalize_of_respelled htext (mem_alphabet_of_mem_text fun t ht => mem_alphabet_of_inRange (hp t ht))]
    exact yields_of_inRange hp
  refine ⟨hspelled, fun text => ⟨?_, inRange_scan _, hspelled _ _ (inRange_scan _) (.refl _)⟩⟩
  rw [Reader.read_some]
  split
  · rfl
  · rfl

/-- A program with a loop, and a careless spelling of it. -/
def stairs : Program := [.move ⟨.right, 12, by decide⟩, .loop [⟨.up, 1, by decide⟩, ⟨.left, 2, by decide⟩] 3]

theorem read_careless_stairs : stairs.InRange ∧ Respelled stairs.text.toList " d1 2,(S1,i2)\tX3".toList ∧
    ({} : Reader).read (some " d1 2,(S1,i2)\tX3") = (.ok stairs, {}) := by
  have hrange : stairs.InRange := by decide
  have hspelled : Respelled stairs.text.toList " d1 2,(S1,i2)\tX3".toList := by
    have hplain : stairs.text.toList = ['D', '1', '2', ',', '(', 'S', '1', ',', 'I', '2', ')', 'X', '3'] := by decide
    have htext : " d1 2,(S1,i2)\tX3".toList =
      [' ', 'd', '1', ' ', '2', ',', '(', 'S', '1', ',', 'i', '2', ')', '\t', 'X', '3'] := by decide
    rw [hplain, htext]
    exact .blank ' ' rfl <| .small 'D' <| .same '1' <| .blank ' ' rfl <| .same '2' <| .same ',' <| .same '(' <|
      .same 'S' <| .same '1' <| .same ',' <| .small 'I' <| .same '2' <| .same ')' <| .blank '\t' rfl <|
      .same 'X' <| .same '3' .nil
  exact ⟨hrange, hspelled, (read_inverts_text {}).1 _ _ hrange hspelled⟩

end Command
end GridWalk
