import GridWalk.Proofs.Command.Brackets
import GridWalk.Proofs.Command.Scanning
import Mathlib.Order.Bounds.Basic

/-! Where a bracket is closed. From an opening bracket on, the text has more opening than closing brackets until the
    search for the closing bracket stops, and there it has as many of both for the first time. What lies between the
    two brackets never closes more than it opens, so a bracket inside it is closed inside it, at the same place whether
    that part of the text is searched alone or as part of the text. -/

namespace GridWalk.Command

variable {c : Char} {cs body rest text : List Char} {depth s e k : Nat}

/-- The place of the bracket that closes the one at a place of the text. -/
def closing? (text : List Char) (s : Nat) : Option Nat :=
  (splitClosing 0 (text.drop (s + 1))).map fun split => s + 1 + split.1.length

/-- From one place to a later one, both included, the text has as many opening as closing brackets. -/
structure Evens (text : List Char) (s e : Nat) : Prop where
  later : s < e
  inside : e < text.length
  even : (text.extract s (e + 1)).count '(' = (text.extract s (e + 1)).count ')'

/-- No beginning of the text closes more brackets than it opens and than are open in front of it. -/
def StaysOpen (depth : Nat) (cs : List Char) : Prop := ∀ p, p <+: cs → p.count ')' ≤ p.count '(' + depth

/-! ### Counting brackets -/

theorem staysOpen_nil (depth : Nat) : StaysOpen depth [] := by
  intro p hp
  rw [List.prefix_nil.mp hp]
  exact Nat.zero_le _

theorem staysOpen_cons_iff :
    StaysOpen depth (c :: cs) ↔ ∀ p, p <+: cs → (c :: p).count ')' ≤ (c :: p).count '(' + depth := by
  constructor
  · exact fun h p hp => h _ (List.cons_prefix_cons.mpr ⟨rfl, hp⟩)
  · intro h p hp
    rcases List.prefix_cons_iff.mp hp with rfl | ⟨q, rfl, hq⟩
    · exact Nat.zero_le _
    · exact h q hq

theorem staysOpen_close : StaysOpen (depth + 1) (')' :: cs) ↔ StaysOpen depth cs := by
  rw [staysOpen_cons_iff]
  refine forall₂_congr fun p _ => ?_
  rw [List.count_cons_self, List.count_cons_of_ne (by decide)]
  omega

theorem not_staysOpen_close : ¬StaysOpen 0 (')' :: cs) := by
  intro h
  have hone := h [')'] (List.cons_prefix_cons.mpr ⟨rfl, List.nil_prefix⟩)
  exact absurd hone (by decide)

theorem count_open_cons (c : Char) (cs : List Char) :
    (c :: cs).count '(' = cs.count '(' + if c = '(' then 1 else 0 := by
  rw [List.count_cons]
  simp only [beq_iff_eq]

theorem staysOpen_cons (hclose : c ≠ ')') :
    StaysOpen depth (c :: cs) ↔ StaysOpen (if c = '(' then depth + 1 else depth) cs := by
  rw [staysOpen_cons_iff]
  refine forall₂_congr fun p _ => ?_
  rw [count_open_cons, List.count_cons_of_ne hclose]
  split <;> omega

/-- The search finds no closing bracket where the text never closes more brackets than are open. -/
theorem splitClosing_eq_none_iff : splitClosing depth cs = none ↔ StaysOpen depth cs := by
  -- By the cases of the search; a bracket changes the depth for the rest of the text.
  fun_induction splitClosing depth cs with
  | case1 depth => exact iff_of_true rfl (staysOpen_nil depth)
  | case2 cs => exact iff_of_false (by simp) not_staysOpen_close
  | case3 depth cs ih => rw [Option.map_eq_none_iff, ih, staysOpen_close]
  | case4 depth c cs h0 hsucc ih =>
    rw [Option.map_eq_none_iff, ih, staysOpen_cons (ne_close_of_cases h0 hsucc)]

/-- What stands before the closing bracket never closes more brackets than are open, and closes them all in the end. -/
theorem staysOpen_of_splitClosing (h : splitClosing depth cs = some (body, rest)) :
    StaysOpen depth body ∧ body.count ')' = body.count '(' + depth := by
  fun_induction splitClosing depth cs generalizing body rest with
  | case1 => cases h
  | case2 cs =>
    cases h
    exact ⟨staysOpen_nil 0, rfl⟩
  | case3 depth cs ih =>
    obtain ⟨⟨body', rest'⟩, hsplit, ⟨⟩⟩ := Option.map_eq_some_iff.mp h
    obtain ⟨hopen, hcount⟩ := ih hsplit
    refine ⟨staysOpen_close.mpr hopen, ?_⟩
    rw [List.count_cons_self, List.count_cons_of_ne (by decide), hcount]
    omega
  | case4 depth c cs h0 hsucc ih =>
    obtain ⟨⟨body', rest'⟩, hsplit, ⟨⟩⟩ := Option.map_eq_some_iff.mp h
    obtain ⟨hopen, hcount⟩ := ih hsplit
    have hclose := ne_close_of_cases h0 hsucc
    refine ⟨(staysOpen_cons hclose).mpr hopen, ?_⟩
    rw [count_open_cons, List.count_cons_of_ne hclose, hcount]
    split <;> omega

/-! ### The first place where the brackets are even -/

theorem drop_of_open (h : text[s]? = some '(') : text.drop s = '(' :: text.drop (s + 1) := by
  obtain ⟨hs, hget⟩ := List.getElem?_eq_some_iff.mp h
  rw [List.drop_eq_getElem_cons hs, hget]

/-- Behind an opening bracket the brackets are even where one more is closed than opened. -/
theorem evens_iff (h : text[s]? = some '(') : Evens text s (s + 1 + k) ↔ k < (text.drop (s + 1)).length ∧
    ((text.drop (s + 1)).take (k + 1)).count ')' = ((text.drop (s + 1)).take (k + 1)).count '(' + 1 := by
  have hextract : text.extract s (s + 1 + k + 1) = '(' :: (text.drop (s + 1)).take (k + 1) := by
    rw [List.extract_eq_take_drop, drop_of_open h, show s + 1 + k + 1 - s = k + 1 + 1 by omega, List.take_succ_cons]
  have hlength : (text.drop (s + 1)).length = text.length - (s + 1) := List.length_drop
  have hcount : (text.extract s (s + 1 + k + 1)).count '(' = (text.extract s (s + 1 + k + 1)).count ')' ↔
      ((text.drop (s + 1)).take (k + 1)).count ')' = ((text.drop (s + 1)).take (k + 1)).count '(' + 1 := by
    rw [hextract, List.count_cons_self, List.count_cons_of_ne (by decide), eq_comm]
  constructor
  · exact fun heven => ⟨by have := heven.inside; omega, hcount.mp heven.even⟩
  · exact fun ⟨hk, hone⟩ => ⟨by omega, by omega, hcount.mpr hone⟩

theorem not_evens_of_closing_none (h : text[s]? = some '(') (hnone : closing? text s = none) : ¬Evens text s e := by
  intro heven
  have hopen : StaysOpen 0 (text.drop (s + 1)) := splitClosing_eq_none_iff.mp (Option.map_eq_none_iff.mp hnone)
  obtain ⟨k, rfl⟩ := Nat.exists_eq_add_of_le (Nat.succ_le_of_lt heven.later)
  have hone := ((evens_iff h).mp heven).2
  have hle := hopen _ (List.take_prefix (k + 1) _)
  omega

/-- The search cuts the text behind the opening bracket at the place that it finds. -/
theorem splitClosing_of_closing (h : closing? text s = some e) :
    splitClosing 0 (text.drop (s + 1)) = some (text.extract (s + 1) e, text.drop (e + 1)) ∧
      e = s + 1 + (text.extract (s + 1) e).length := by
  obtain ⟨⟨body, rest⟩, hsplit, rfl⟩ := Option.map_eq_some_iff.mp h
  have happend := eq_append_of_splitClosing hsplit
  have hbody : text.extract (s + 1) (s + 1 + body.length) = body := by
    rw [List.extract_eq_take_drop, Nat.add_sub_cancel_left, happend, List.take_left]
  have hrest : text.drop (s + 1 + body.length + 1) = rest := by
    rw [Nat.add_assoc, ← List.drop_drop, happend, ← List.drop_drop, List.drop_left]
    rfl
  exact ⟨by rw [hsplit, hbody, hrest], by rw [hbody]⟩

theorem isLeast_of_closing (h : text[s]? = some '(') (he : closing? text s = some e) :
    IsLeast {e | Evens text s e} e := by
  obtain ⟨hsplit, hplace⟩ := splitClosing_of_closing he
  obtain ⟨hopen, hcount⟩ := staysOpen_of_splitClosing hsplit
  have happend := eq_append_of_splitClosing hsplit
  generalize text.extract (s + 1) e = body at *
  subst hplace
  constructor
  · -- Up to the closing bracket, one more is closed than opened behind the opening one.
    have htake : (text.drop (s + 1)).take (body.length + 1) = body ++ [')'] := by
      rw [happend, List.take_length_add_append]
      rfl
    refine (evens_iff h).mpr ⟨?_, ?_⟩
    · rw [happend, List.length_append, List.length_cons]
      omega
    · rw [htake, List.count_append, List.count_append, hcount]
      rfl
  · -- Up to a place before it, no more are closed than opened.
    intro e' heven
    obtain ⟨k, rfl⟩ := Nat.exists_eq_add_of_le (Nat.succ_le_of_lt heven.later)
    have hone := ((evens_iff h).mp heven).2
    by_contra hlt
    have htake : (text.drop (s + 1)).take (k + 1) = body.take (k + 1) := by
      rw [happend, List.take_append_of_le_length (by omega)]
    have hle := hopen _ (List.take_prefix (k + 1) body)
    rw [htake] at hone
    omega

/-! ### Brackets between the two -/

theorem Balanced.bracketsClosed (h : Balanced cs) : BracketsClosed cs := by
  induction h with
  | nil =>
    intro rest hrest
    cases List.suffix_nil.mp hrest
  | other hopen _ _ ih =>
    intro rest hrest
    rcases List.suffix_cons_iff.mp hrest with heq | hsuffix
    · exact absurd (List.cons.inj heq).1.symm hopen
    · exact ih rest hsuffix
  | @bracketed inner later hinner _ ihinner ih =>
    intro rest hrest
    rcases List.suffix_cons_iff.mp hrest with heq | hsuffix
    · exact ⟨inner, later, (List.cons.inj heq).2, hinner⟩
    · rcases List.suffix_or_suffix_of_suffix hsuffix (List.suffix_append inner (')' :: later)) with hlater | hbefore
      · -- The bracket stands behind the closing one.
        rcases List.suffix_cons_iff.mp hlater with heq | hlater
        · exact absurd (List.cons.inj heq).1 (by decide)
        · exact ih rest hlater
      · -- It stands before the closing one, so what is left of the inner text follows it.
        rcases List.suffix_cons_iff.mp hbefore with heq | ⟨left, rfl⟩
        · exact absurd (List.cons.inj heq).1 (by decide)
        · obtain ⟨body, after, rfl, hbody⟩ := ihinner left (List.suffix_append_self_iff.mp hsuffix)
          exact ⟨body, after ++ ')' :: later, by rw [List.append_assoc, List.cons_append], hbody⟩

/-- A bracket within a balanced part of a text is closed within that part, wherever the part stands. -/
theorem Balanced.exists_closing (h : Balanced body) {i : Nat} (hi : body[i]? = some '(') :
    ∃ j, closing? body i = some j ∧ ∀ front tail : List Char,
      closing? (front ++ (body ++ tail)) (front.length + i) = some (front.length + j) := by
  have hsuffix : '(' :: body.drop (i + 1) <:+ body := drop_of_open hi ▸ List.drop_suffix i body
  obtain ⟨inner, later, hsplit, hinner⟩ := h.bracketsClosed _ hsuffix
  have hi' : i + 1 ≤ body.length := (List.getElem?_eq_some_iff.mp hi).1
  refine ⟨i + 1 + inner.length, ?_, fun front tail => ?_⟩
  · rw [closing?, splitClosing_eq_some_iff.mpr ⟨hsplit, hinner⟩]
    rfl
  · have hdrop : (front ++ (body ++ tail)).drop (front.length + i + 1) = inner ++ ')' :: (later ++ tail) := by
      rw [Nat.add_assoc, ← List.drop_drop, List.drop_left, List.drop_append_of_le_length hi', hsplit,
        List.append_assoc, List.cons_append]
    rw [closing?, hdrop, splitClosing_eq_some_iff.mpr ⟨rfl, hinner⟩, Option.map_some, Nat.add_assoc, Nat.add_assoc,
      Nat.add_assoc]

/-! ### The closing bracket -/

theorem readFrame_unclosedLoop_iff : readFrame cs = .error .unclosedLoop ↔ splitClosing 0 cs = none := by
  unfold readFrame
  split
  · rename_i hnone
    exact iff_of_true rfl hnone
  · rename_i body after hsplit
    rw [hsplit]
    refine iff_of_false ?_ (Option.some_ne_none _)
    dsimp only
    split
    · simp
    · split
      · simp
      · split <;> simp
  · rename_i hsplit
    rw [hsplit]
    exact iff_of_false (by simp) (Option.some_ne_none _)

/-- An opening bracket is closed at the first place up to which, from the bracket on, the text has as many opening as
    closing brackets, and nowhere if there is no such place; a loop is unclosed then. The text between the two brackets
    is what the search cuts off and what a loop has as its body. No beginning of it closes more brackets than it opens,
    and the whole of it closes as many. Each opening bracket in it is closed in it, at the same place whether it is
    searched alone or as part of the text. -/
theorem closed_where_first_even (h : text[s]? = some '(') :
    (∀ e, closing? text s = some e ↔ IsLeast {e | Evens text s e} e) ∧
    (closing? text s = none ↔ ∀ e, ¬Evens text s e) ∧
    (closing? text s = none ↔ readFrame (text.drop (s + 1)) = .error .unclosedLoop) ∧
    ∀ e, closing? text s = some e →
      let body := text.extract (s + 1) e
      splitClosing 0 (text.drop (s + 1)) = some (body, text.drop (e + 1)) ∧
      (∀ f, readFrame (text.drop (s + 1)) = .ok f → f.body = body) ∧
      (∀ p, p <+: body → p.count ')' ≤ p.count '(') ∧ body.count ')' = body.count '(' ∧
      ∀ i, body[i]? = some '(' → ∃ j, closing? body i = some j ∧ closing? text (s + 1 + i) = some (s + 1 + j) := by
  have hnone : closing? text s = none ↔ splitClosing 0 (text.drop (s + 1)) = none := Option.map_eq_none_iff
  refine ⟨fun e => ⟨isLeast_of_closing h, fun hleast => ?_⟩, ⟨fun hnone e => not_evens_of_closing_none h hnone, ?_⟩,
    hnone.trans readFrame_unclosedLoop_iff.symm, fun e he => ?_⟩
  · -- The search stops somewhere, and there is only one first place.
    cases hclosing : closing? text s with
    | none => exact absurd hleast.1 (not_evens_of_closing_none h hclosing)
    | some e' => rw [(isLeast_of_closing h hclosing).unique hleast]
  · intro hnever
    cases hclosing : closing? text s with
    | none => rfl
    | some e => exact absurd (isLeast_of_closing h hclosing).1 (hnever e)
  · obtain ⟨hsplit, -⟩ := splitClosing_of_closing he
    obtain ⟨hopen, hcount⟩ := staysOpen_of_splitClosing hsplit
    obtain ⟨happend, hbalanced⟩ := splitClosing_eq_some_iff.mp hsplit
    refine ⟨hsplit, fun f hf => ?_, hopen, hcount, fun i hi => ?_⟩
    · obtain ⟨digits, hf, -⟩ := readFrame_eq_ok_iff.mp hf
      rw [hsplit] at hf
      exact (Prod.mk.inj (Option.some.inj hf)).1.symm
    · obtain ⟨j, hj, hwhole⟩ := hbalanced.exists_closing hi
      have hs : s < text.length := (List.getElem?_eq_some_iff.mp h).1
      have hfront : (text.take (s + 1)).length = s + 1 := List.length_take_of_le hs
      have htext := hwhole (text.take (s + 1)) (')' :: text.drop (e + 1))
      rw [← happend, List.take_append_drop, hfront] at htext
      exact ⟨j, hj, htext⟩

theorem nested_closed_where_first_even :
    let text := "S1,(D1(I2)B)X2)".toList
    text[3]? = some '(' ∧ closing? text 3 = some 11 ∧ IsLeast {e | Evens text 3 e} 11 ∧
      (text.extract 4 11)[2]? = some '(' ∧
      ∃ j, closing? (text.extract 4 11) 2 = some j ∧ closing? text (3 + 1 + 2) = some (3 + 1 + j) := by
  intro text
  have hopen : text[3]? = some '(' := by decide
  have hclosing : closing? text 3 = some 11 := by decide
  have hinner : (text.extract 4 11)[2]? = some '(' := by decide
  obtain ⟨hleast, -, -, hbody⟩ := closed_where_first_even hopen
  obtain ⟨-, -, -, -, hagree⟩ := hbody 11 hclosing
  exact ⟨hopen, hclosing, (hleast 11).mp hclosing, hinner, hagree 2 hinner⟩

end GridWalk.Command
