import GridWalk.Proofs.Command.Acceptance
import GridWalk.Proofs.Command.Brackets
import GridWalk.Proofs.Command.Tokens
import Mathlib.Data.Nat.Digits.Defs

/-! What a count decides. A count is told by the number that its digits write, however many they are and however many of
    them are zeros in front: a loop is refused for the count zero and for one million and more, a direction letter makes
    a move from one step on, and that move is in range up to fifteen steps. -/

namespace GridWalk.Command
open Text

variable {body digits rest : List Char} {d : Direction} {m : Move}

/-- Digits stand for their values times the powers of ten, the last one for its value alone. -/
theorem decimalNumber_eq_ofDigits (ds : List Char) :
    decimalNumber ds = Nat.ofDigits 10 (ds.reverse.map digitValue) := by
  induction ds with
  | nil => rfl
  | cons c ds ih =>
    rw [decimalNumber_cons, ih, List.reverse_cons, List.map_append, List.map_singleton, Nat.ofDigits_append,
      Nat.ofDigits_singleton, List.length_map, List.length_reverse, Nat.add_comm, Nat.mul_comm]

/-! ### Loops and moves at the beginning of a text -/

/-- A loop with a count is taken or refused by the number of its digits, before its body is looked at. -/
theorem readFrame_of_count (hbody : Balanced body) (hdigits : ∀ c ∈ digits, isPlainDigit c = true)
    (hne : digits ≠ []) (hrest : NoDigitFirst rest) : readFrame (body ++ ')' :: 'X' :: (digits ++ rest)) =
      if decimalNumber digits = 0 then .error .zeroCount
      else if 1000000 ≤ decimalNumber digits then .error .countTooLarge
      else .ok ⟨body, decimalNumber digits, rest⟩ := by
  have hcount : countOf digits = min (decimalNumber digits) 1000000 := countOf_eq_min hdigits
  have hlimit : oversizedCount = 1000000 := rfl
  have hempty : digits.isEmpty = false := by rwa [Bool.eq_false_iff, ne_eq, List.isEmpty_iff]
  rw [readFrame, splitClosing_eq_some_iff.mpr ⟨rfl, hbody⟩]
  simp only [takeDigits_append hdigits hrest, hempty, hlimit, hcount, Bool.false_eq_true, if_false]
  by_cases hzero : decimalNumber digits = 0
  · rw [if_pos hzero, if_pos (by omega)]
  · rw [if_neg hzero, if_neg (by omega)]
    by_cases hlarge : 1000000 ≤ decimalNumber digits
    · rw [if_pos hlarge, if_pos (by omega)]
    · rw [if_neg hlarge, if_neg (by omega), Nat.min_eq_left (by omega)]

section
variable (hbody : Balanced body) (hdigits : ∀ c ∈ digits, isPlainDigit c = true) (hne : digits ≠ [])
  (hrest : NoDigitFirst rest)
include hbody hdigits hne hrest

theorem readFrame_zeroCount_iff :
    readFrame (body ++ ')' :: 'X' :: (digits ++ rest)) = .error .zeroCount ↔ decimalNumber digits = 0 := by
  rw [readFrame_of_count hbody hdigits hne hrest]
  split
  · rename_i hzero
    exact iff_of_true rfl hzero
  · rename_i hzero
    split
    · exact iff_of_false (by simp) hzero
    · exact iff_of_false (by simp) hzero

theorem readFrame_countTooLarge_iff :
    readFrame (body ++ ')' :: 'X' :: (digits ++ rest)) = .error .countTooLarge ↔ 1000000 ≤ decimalNumber digits := by
  rw [readFrame_of_count hbody hdigits hne hrest]
  split
  · exact iff_of_false (by simp) (by omega)
  · split
    · rename_i hlarge
      exact iff_of_true rfl hlarge
    · rename_i hlarge
      exact iff_of_false (by simp) hlarge

theorem readFrame_count_iff :
    readFrame (body ++ ')' :: 'X' :: (digits ++ rest)) = .ok ⟨body, decimalNumber digits, rest⟩ ↔
      1 ≤ decimalNumber digits ∧ decimalNumber digits < 1000000 := by
  rw [readFrame_of_count hbody hdigits hne hrest]
  split
  · exact iff_of_false (by simp) (by omega)
  · split
    · exact iff_of_false (by simp) (by omega)
    · exact iff_of_true rfl (by omega)

end

/-- A direction letter with digits makes the move of their number, if there is one. -/
theorem readMove_of_count (d : Direction) (hdigits : ∀ c ∈ digits, isPlainDigit c = true) (hrest : NoDigitFirst rest) :
    readMove (d.symbol :: (digits ++ rest)) = (moveOf? d (decimalNumber digits)).map (·, rest) := by
  have hcount : countOf digits = min (decimalNumber digits) 1000000 := countOf_eq_min hdigits
  rw [readMove, Direction.ofSymbol?_symbol, moveOf?]
  simp only [takeDigits_append hdigits hrest, hcount]
  by_cases hpos : 0 < decimalNumber digits
  · rw [dif_pos hpos, dif_pos (by omega), Option.map_some]
  · rw [dif_neg hpos, dif_neg (by omega), Option.map_none]

theorem readMove_isSome_iff (d : Direction) (hdigits : ∀ c ∈ digits, isPlainDigit c = true)
    (hrest : NoDigitFirst rest) :
    (readMove (d.symbol :: (digits ++ rest))).isSome = true ↔ 1 ≤ decimalNumber digits := by
  rw [readMove_of_count d hdigits hrest, Option.isSome_map, moveOf?]
  split
  · rename_i hpos
    exact iff_of_true rfl hpos
  · rename_i hzero
    exact iff_of_false Bool.false_ne_true hzero

/-! ### Texts of one letter and digits -/

/-- Digits without a letter in front are faults and nothing else. -/
theorem scan_digits (hdigits : ∀ c ∈ digits, isPlainDigit c = true) :
    (scan digits).missingComma = false ∧ (scan digits).depth = 0 := by
  induction digits with
  | nil =>
    rw [scan_nil]
    exact ⟨rfl, rfl⟩
  | cons c ds ih =>
    have hc := hdigits c List.mem_cons_self
    obtain ⟨hcomma, hdepth⟩ := ih fun c hc => hdigits c (List.mem_cons_of_mem _ hc)
    have hmove : readMove (c :: ds) = none := by rw [readMove, ofSymbol?_of_digit hc]
    have hcomma' : c ≠ ',' := by
      rintro rfl
      cases hc
    have hopen : c ≠ '(' := by
      rintro rfl
      cases hc
    rw [scan_badToken hcomma' hopen hmove]
    exact ⟨hcomma, (Nat.zero_max _).trans hdepth⟩

/-- A text of one letter and digits is read as their move, or is faulty where they make none. -/
theorem scan_letter (d : Direction) (hdigits : ∀ c ∈ digits, isPlainDigit c = true) :
    (scan (d.symbol :: digits)).missingComma = false ∧ (scan (d.symbol :: digits)).depth = 0 ∧
      match moveOf? d (decimalNumber digits) with
      | some m => (scan (d.symbol :: digits)).terms = [.move m] ∧ (scan (d.symbol :: digits)).fault = none
      | none => (scan (d.symbol :: digits)).fault = some .badToken := by
  have hread : readMove (d.symbol :: (digits ++ [])) = (moveOf? d (decimalNumber digits)).map (·, []) :=
    readMove_of_count d hdigits nofun
  rw [List.append_nil] at hread
  cases hmove : moveOf? d (decimalNumber digits) with
  | some m =>
    rw [hmove, Option.map_some] at hread
    rw [scan_move hread, scan_nil]
    exact ⟨rfl, rfl, rfl, rfl⟩
  | none =>
    rw [hmove, Option.map_none] at hread
    obtain ⟨hcomma, hdepth⟩ := scan_digits hdigits
    have hsymbol : d.symbol ≠ ',' := by cases d <;> decide
    rw [scan_badToken hsymbol (symbol_ne_open d) hread]
    exact ⟨hcomma, (Nat.zero_max _).trans hdepth, rfl⟩

/-- The rules of every level have nothing against a single move but its steps. -/
theorem commonRejection?_of_move {r : Reading} (o : Options) (hterms : r.terms = [.move m])
    (hcomma : r.missingComma = false) (hfault : r.fault = none) :
    o.commonRejection? r = if m.steps ≤ 15 then none else some (.stepsOutOfRange m.steps) := by
  have hmoves : r.terms.writtenMoves = [m] := by
    rw [hterms]
    rfl
  rw [Options.commonRejection?, hcomma, hfault, hmoves, hterms]
  by_cases hrange : m.steps ≤ 15
  · have hin : outOfRange m = false := by rwa [Bool.eq_false_iff, ne_eq, outOfRange_iff, Nat.not_lt]
    simp [hrange, hin, Term.isLoop]
  · have hout : outOfRange m = true := outOfRange_iff.mpr (Nat.lt_of_not_le hrange)
    simp [hrange, hout, Term.isLoop]

theorem validate_letter (hdigits : ∀ c ∈ digits, isPlainDigit c = true) (o : Options) {text : String}
    (htext : normalize text = d.symbol :: digits) : o.validate text = (o.patternRejection? (read text).terms <|>
      if decimalNumber digits = 0 then some (.faulty .badToken)
      else if decimalNumber digits ≤ 15 then none
      else some (.stepsOutOfRange (min (decimalNumber digits) 1000000))) := by
  obtain ⟨hcomma, hdepth, hread⟩ := scan_letter d hdigits
  rw [← htext] at hcomma hdepth hread
  have hshallow : ¬maxDepth < (scan (normalize text)).depth := by
    rw [hdepth]
    exact Nat.not_lt_zero _
  rw [Options.validate, read, if_neg hshallow, Options.rejection?]
  congr 1
  funext _
  by_cases hzero : decimalNumber digits = 0
  · have hnone : moveOf? d (decimalNumber digits) = none := dif_neg (by omega)
    rw [hnone] at hread
    rw [if_pos hzero, Options.commonRejection?, hcomma, hread, Bool.and_false]
    rfl
  · have hmove : moveOf? d (decimalNumber digits) = some ⟨d, min (decimalNumber digits) 1000000, by omega⟩ :=
      dif_pos (by omega)
    rw [hmove] at hread
    rw [if_neg hzero, commonRejection?_of_move o hread.1 hcomma hread.2]
    dsimp only
    by_cases hrange : decimalNumber digits ≤ 15
    · rw [if_pos hrange, if_pos (by omega)]
    · rw [if_neg hrange, if_neg (by omega)]

/-! ### What counts decide -/

/-- Counts of any length are the number of their digits up to one million, and one million from there on. So the count
    of a loop is refused as zero where the number is zero and as too large from one million on, and is the number
    otherwise; a direction letter makes a move where the number is not zero, and the move is in range where the number
    is at most fifteen. A text of one letter and digits, in any spelling, is judged accordingly, once the patterns that
    advanced levels ask for are. -/
theorem count_decides (hdigits : ∀ c ∈ digits, isPlainDigit c = true) :
    let v := decimalNumber digits
    v = Nat.ofDigits 10 (digits.reverse.map digitValue) ∧ countOf digits = min v 1000000 ∧
    (∀ body rest, Balanced body → digits ≠ [] → NoDigitFirst rest →
      let cs := body ++ ')' :: 'X' :: (digits ++ rest)
      (readFrame cs = .error .zeroCount ↔ v = 0) ∧ (readFrame cs = .error .countTooLarge ↔ 1000000 ≤ v) ∧
      (readFrame cs = .ok ⟨body, v, rest⟩ ↔ 1 ≤ v ∧ v < 1000000) ∧
      (v = 0 → (scan ('(' :: cs)).fault = some .zeroCount) ∧
      (1000000 ≤ v → (scan ('(' :: cs)).fault = some .countTooLarge)) ∧
    (∀ d rest, NoDigitFirst rest →
      let cs := d.symbol :: (digits ++ rest)
      ((readMove cs).isSome = true ↔ 1 ≤ v) ∧
      ∀ m after, readMove cs = some (m, after) →
        m.direction = d ∧ m.steps = min v 1000000 ∧ after = rest ∧ (outOfRange m = false ↔ 1 ≤ v ∧ v ≤ 15)) ∧
    ∀ (o : Options) (d : Direction) (text : String), normalize text = d.symbol :: digits →
      o.validate text = (o.patternRejection? (read text).terms <|>
        if v = 0 then some (.faulty .badToken)
        else if v ≤ 15 then none
        else some (.stepsOutOfRange (min v 1000000))) := by
  intro v
  refine ⟨decimalNumber_eq_ofDigits digits, countOf_eq_min hdigits, fun body rest hbody hne hrest => ?_,
    fun d rest hrest => ?_, fun o d text htext => validate_letter hdigits o htext⟩
  · have hzero := readFrame_zeroCount_iff hbody hdigits hne hrest
    have hlarge := readFrame_countTooLarge_iff hbody hdigits hne hrest
    refine ⟨hzero, hlarge, readFrame_count_iff hbody hdigits hne hrest, fun h => ?_, fun h => ?_⟩
    · rw [scan_badLoop (hzero.mpr h)]
      rfl
    · rw [scan_badLoop (hlarge.mpr h)]
      rfl
  · refine ⟨readMove_isSome_iff d hdigits hrest, fun m after h => ?_⟩
    rw [readMove_of_count d hdigits hrest, Option.map_eq_some_iff] at h
    obtain ⟨m', hm, heq⟩ := h
    obtain ⟨rfl, rfl⟩ := Prod.mk.inj heq
    obtain ⟨rfl, hsteps⟩ := moveOf?_eq_some_iff.mp hm
    have hpos := m'.steps_pos
    refine ⟨rfl, hsteps, rfl, ?_⟩
    rw [Bool.eq_false_iff, ne_eq, outOfRange_iff]
    omega

theorem padded_million_decides :
    let digits := "0001000000".toList
    (∀ c ∈ digits, isPlainDigit c = true) ∧ countOf digits = 1000000 ∧
      (Balanced "D1".toList ∧ digits ≠ [] ∧ NoDigitFirst ",S1".toList ∧
        readFrame ("D1".toList ++ ')' :: 'X' :: (digits ++ ",S1".toList)) = .error .countTooLarge) ∧
      normalize "d0001 000000" = Direction.right.symbol :: digits ∧
        ({} : Options).validate "d0001 000000" = some (.stepsOutOfRange 1000000) := by
  intro digits
  have hall : digits.all isPlainDigit = true := by decide
  have hdigits := List.all_eq_true.mp hall
  have hvalue : decimalNumber digits = 1000000 := by decide
  have hbody : Balanced "D1".toList := .other (by decide) (by decide) (.other (by decide) (by decide) .nil)
  have hne : digits ≠ [] := by decide
  have hrest : NoDigitFirst ",S1".toList := by
    rintro c ⟨⟩
    rfl
  have htext : normalize "d0001 000000" = Direction.right.symbol :: digits := by decide +kernel
  obtain ⟨-, hcount, hloop, -, hjudged⟩ := count_decides hdigits
  obtain ⟨-, hlarge, -⟩ := hloop _ _ hbody hne hrest
  refine ⟨hdigits, ?_, ⟨hbody, hne, hrest, hlarge.mpr (Nat.le_of_eq hvalue.symm)⟩, htext, ?_⟩
  · rw [hcount, hvalue]
    rfl
  · rw [hjudged {} .right _ htext, hvalue]
    rfl

end GridWalk.Command
