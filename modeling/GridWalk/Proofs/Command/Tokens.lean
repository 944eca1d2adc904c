import GridWalk.Proofs.Command.Scanning
import Mathlib.Data.List.Infix

/-! The moves that stand in a text, found place by place without regard to brackets, commas or faults. Reading
    a text yields exactly these moves, once each and in their order, whatever is wrong with the text: the body
    of a loop is read within the loop or, where the loop is faulty, after its bracket was skipped. -/

namespace GridWalk.Command
open Text

/-- The move of a direction and a number of steps, if there are any. A million stands for all larger numbers. -/
def moveOf? (direction : Direction) (number : Nat) : Option Move :=
  if h : 0 < number then some ⟨direction, min number 1000000, by omega⟩ else none

/-- The move at a place of a text: a direction letter with all the digits behind it. -/
def moveAt? : List Char → Option Move
  | [] => none
  | c :: cs => (Direction.ofSymbol? c).bind (moveOf? · (decimalNumber (cs.takeWhile isPlainDigit)))

/-- The moves at all places of a text, from left to right. -/
def moveTokens (cs : List Char) : List Move := cs.tails.filterMap moveAt?

variable {c : Char} {cs ds rest : List Char} {m : Move}

theorem moveTokens_nil : moveTokens [] = [] := rfl

theorem moveTokens_cons (c : Char) (cs : List Char) :
    moveTokens (c :: cs) = (moveAt? (c :: cs)).toList ++ moveTokens cs := by
  rw [moveTokens, List.tails_cons, List.filterMap_cons]
  cases moveAt? (c :: cs) with
  | none => rfl
  | some m => rfl

theorem moveTokens_of_not_symbol (h : Direction.ofSymbol? c = none) (cs : List Char) :
    moveTokens (c :: cs) = moveTokens cs := by
  have hnone : moveAt? (c :: cs) = none := by
    rw [moveAt?, h]
    rfl
  rw [moveTokens_cons, hnone]
  rfl

/-! ### Moves and tokens -/

theorem moveOf?_eq_some_iff {direction : Direction} {number : Nat} :
    moveOf? direction number = some m ↔ direction = m.direction ∧ m.steps = min number 1000000 := by
  have hsteps := m.steps_pos
  rw [moveOf?, Option.dite_none_right_eq_some]
  constructor
  · rintro ⟨-, ⟨⟩⟩
    exact ⟨rfl, rfl⟩
  · rintro ⟨rfl, heq⟩
    have hpos : 0 < number := by omega
    refine ⟨hpos, ?_⟩
    cases m
    cases heq
    rfl

/-- The scanner reads a move exactly where one stands. -/
theorem moveAt?_eq_some_iff : moveAt? cs = some m ↔ ∃ rest, readMove cs = some (m, rest) := by
  have hone : oversizedCount = 1000000 := rfl
  simp only [readMove_eq_some_iff, hone]
  cases cs with
  | nil => simp [moveAt?]
  | cons c cs =>
    obtain ⟨happ, hdigits, hrest⟩ := takeDigits_spec cs
    rw [moveAt?, Option.bind_eq_some_iff]
    constructor
    · rintro ⟨d, hd, hm⟩
      obtain ⟨rfl, hsteps⟩ := moveOf?_eq_some_iff.mp hm
      refine ⟨(takeDigits cs).2, (takeDigits cs).1, ?_, hdigits, hrest, hsteps⟩
      rw [happ, Direction.ofSymbol?_eq_some_iff.mp hd]
    · rintro ⟨rest, digits, heq, hdigits', hrest', hsteps⟩
      obtain ⟨rfl, rfl⟩ := List.cons_eq_cons.mp heq
      have hnumber : (digits ++ rest).takeWhile isPlainDigit = digits :=
        congrArg Prod.fst (takeDigits_append hdigits' hrest')
      rw [hnumber]
      exact ⟨m.direction, Direction.ofSymbol?_symbol _, moveOf?_eq_some_iff.mpr ⟨rfl, hsteps⟩⟩

/-- A digit begins no move. -/
theorem ofSymbol?_of_digit (h : isPlainDigit c = true) : Direction.ofSymbol? c = none := by
  rw [Option.eq_none_iff_forall_not_mem]
  intro d hd
  rw [Direction.ofSymbol?_eq_some_iff.mp hd] at h
  cases d <;> cases h

theorem moveTokens_digits_append (h : ∀ c ∈ ds, isPlainDigit c = true) (cs : List Char) :
    moveTokens (ds ++ cs) = moveTokens cs := by
  induction ds with
  | nil => rfl
  | cons d ds ih =>
    rw [List.cons_append, moveTokens_of_not_symbol (ofSymbol?_of_digit (h d List.mem_cons_self))]
    exact ih fun c hc => h c (List.mem_cons_of_mem d hc)

theorem moveTokens_of_readMove (h : readMove cs = some (m, rest)) : moveTokens cs = m :: moveTokens rest := by
  obtain ⟨digits, rfl, hdigits, -⟩ := readMove_eq_some_iff.mp h
  rw [moveTokens_cons, moveAt?_eq_some_iff.mpr ⟨rest, h⟩, moveTokens_digits_append hdigits]
  rfl

theorem moveTokens_of_readMove_none (h : readMove (c :: cs) = none) : moveTokens (c :: cs) = moveTokens cs := by
  have hnone : moveAt? (c :: cs) = none := by
    rw [Option.eq_none_iff_forall_ne_some]
    intro m hm
    obtain ⟨rest, hread⟩ := moveAt?_eq_some_iff.mp hm
    rw [h] at hread
    cases hread
  rw [moveTokens_cons, hnone]
  rfl

/-! ### Cutting texts -/

/-- What follows the digits at a place does not matter there, unless it goes on with a digit. -/
theorem moveAt?_append (hds : NoDigitFirst ds) (c : Char) (cs : List Char) :
    moveAt? (c :: cs ++ ds) = moveAt? (c :: cs) := by
  have hdigits : (cs ++ ds).takeWhile isPlainDigit = cs.takeWhile isPlainDigit := by
    induction cs with
    | nil =>
      cases ds with
      | nil => rfl
      | cons d ds => rw [List.nil_append, List.takeWhile_cons_of_neg (by simp [hds d rfl]), List.takeWhile_nil]
    | cons a cs ih =>
      rw [List.cons_append]
      by_cases ha : isPlainDigit a = true
      · rw [List.takeWhile_cons_of_pos ha, List.takeWhile_cons_of_pos ha, ih]
      · rw [List.takeWhile_cons_of_neg ha, List.takeWhile_cons_of_neg ha]
  rw [List.cons_append, moveAt?, moveAt?, hdigits]

/-- A text cut in front of anything but a digit has the moves of both parts. -/
theorem moveTokens_append (hds : NoDigitFirst ds) (cs : List Char) :
    moveTokens (cs ++ ds) = moveTokens cs ++ moveTokens ds := by
  induction cs with
  | nil => rfl
  | cons c cs ih =>
    have happ : moveTokens (c :: cs ++ ds) = (moveAt? (c :: cs ++ ds)).toList ++ moveTokens (cs ++ ds) :=
      moveTokens_cons c (cs ++ ds)
    rw [happ, moveAt?_append hds, ih, moveTokens_cons, List.append_assoc]

/-- A loop has the moves of its body; none stands in its brackets and its count. -/
theorem moveTokens_of_readFrame {f : LoopFrame} (h : readFrame cs = .ok f) :
    moveTokens cs = moveTokens f.body ++ moveTokens f.rest := by
  obtain ⟨digits, hsplit, hdigits, -⟩ := readFrame_eq_ok_iff.mp h
  have hclose : NoDigitFirst (')' :: 'X' :: (digits ++ f.rest)) := by
    rintro _ ⟨⟩
    rfl
  rw [eq_append_of_splitClosing hsplit, moveTokens_append hclose, moveTokens_of_not_symbol rfl,
    moveTokens_of_not_symbol rfl, moveTokens_digits_append hdigits]

/-! ### Reading -/

theorem writtenMoves_scan (cs : List Char) : (scan cs).terms.writtenMoves = moveTokens cs := by
  -- By the cases of the scanner. Wherever it skips a character, no move stands at the place of that character.
  induction cs using scan.induct with
  | case1 => rw [scan_nil, moveTokens_nil]; rfl
  | case2 rest ih => rw [scan_comma, ih, moveTokens_of_not_symbol rfl]
  | case3 rest fault hf ih =>
    rw [scan_badLoop hf, moveTokens_of_not_symbol rfl, ← ih]
    rfl
  | case4 rest f hf _ body hempty ihb ih =>
    -- The body has no move; it is read once more behind the bracket.
    rw [scan_emptyLoop hf (List.isEmpty_iff.mp hempty), moveTokens_of_not_symbol rfl, ← ih]
    rfl
  | case5 rest f hf _ body hne ihb ih =>
    have hmoves : (scan f.body).terms.writtenMoves ≠ [] := fun h => hne (List.isEmpty_iff.mpr h)
    rw [scan_loop hf hmoves, moveTokens_of_not_symbol rfl, moveTokens_of_readFrame hf, ← ih, ← ihb]
    rfl
  | case6 c rest hcomma hopen hm ih =>
    rw [scan_badToken hcomma hopen hm, moveTokens_of_readMove_none hm, ← ih]
    rfl
  | case7 c rest _ _ m after hm _ ih =>
    rw [scan_move hm, moveTokens_of_readMove hm, ← ih]
    rfl

/-- Reading neither loses nor repeats a move, whatever is wrong with a text. A reader yields these moves under
    any options, unless loops are nested too deeply for it. -/
theorem read_writtenMoves (text : String) : (read text).terms.writtenMoves = moveTokens (normalize text) ∧
    ∀ r : Reader, (r.read (some text)).1.map Program.writtenMoves =
      if maxDepth < (read text).depth then .error .tooDeep else .ok (moveTokens (normalize text)) := by
  have hmoves : (read text).terms.writtenMoves = moveTokens (normalize text) := writtenMoves_scan (normalize text)
  refine ⟨hmoves, fun r => ?_⟩
  rw [Reader.read, ← hmoves]
  by_cases hdeep : maxDepth < (read text).depth
  · simp only [hdeep, if_true]
    rfl
  · simp only [hdeep, if_false]
    rfl

example : moveTokens "D0D2(S3,I1)XB04".toList =
    [⟨.right, 2, by decide⟩, ⟨.up, 3, by decide⟩, ⟨.left, 1, by decide⟩, ⟨.down, 4, by decide⟩] := by decide

end GridWalk.Command
