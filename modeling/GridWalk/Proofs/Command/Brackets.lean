import GridWalk.Proofs.Command.Grammar
import Mathlib.Data.List.Infix

/-! Texts whose brackets match. The search for the bracket that closes an open one finds the one that matches it: between
    the two, the brackets match among themselves. -/

namespace GridWalk.Command

variable {c : Char} {cs ds body rest : List Char} {depth : Nat}

/-- The brackets of the text match among themselves. -/
inductive Balanced : List Char → Prop
  | nil : Balanced []
  | other {c : Char} {cs : List Char} (hopen : c ≠ '(') (hclose : c ≠ ')') (h : Balanced cs) : Balanced (c :: cs)
  | bracketed {body cs : List Char} (hbody : Balanced body) (h : Balanced cs) : Balanced ('(' :: (body ++ ')' :: cs))

/-- Each opening bracket of the text has the bracket that matches it in the text. -/
def BracketsClosed (cs : List Char) : Prop :=
  ∀ rest, '(' :: rest <:+ cs → ∃ body after, rest = body ++ ')' :: after ∧ Balanced body

/-! ### The matching bracket -/

theorem Balanced.passed (h : Balanced cs) : Passed cs := by
  induction h with
  | nil => exact Passed.nil
  | other hopen hclose _ ih => exact ih.cons hopen hclose
  | bracketed _ _ ihbody ih => simpa using ihbody.bracketed.append ih

/-- The text closes as many brackets as are open, one after the other, and leaves one bracket open. -/
def Closes : Nat → List Char → Prop
  | 0, body => Balanced body
  | depth + 1, body => ∃ first later, body = first ++ ')' :: later ∧ Balanced first ∧ Closes depth later

theorem Closes.other (hopen : c ≠ '(') (hclose : c ≠ ')') (h : Closes depth body) : Closes depth (c :: body) := by
  cases depth with
  | zero => exact Balanced.other hopen hclose h
  | succ depth =>
    obtain ⟨first, later, rfl, hfirst, hlater⟩ := h
    exact ⟨c :: first, later, rfl, hfirst.other hopen hclose, hlater⟩

theorem Closes.opened (h : Closes (depth + 1) body) : Closes depth ('(' :: body) := by
  obtain ⟨inner, later, rfl, hinner, hlater⟩ := h
  cases depth with
  | zero => exact Balanced.bracketed hinner hlater
  | succ depth =>
    obtain ⟨first, later, rfl, hfirst, hlater⟩ := hlater
    exact ⟨'(' :: (inner ++ ')' :: first), later, by simp, hinner.bracketed hfirst, hlater⟩

/-- Where neither case of a closing bracket applies, the text begins with another character. -/
theorem ne_close_of_cases (hzero : depth = 0 → c = ')' → False) (hsucc : ∀ n, depth = n + 1 → c = ')' → False) :
    c ≠ ')' := by
  cases depth with
  | zero => exact hzero rfl
  | succ depth => exact hsucc depth rfl

theorem closes_of_splitClosing (h : splitClosing depth cs = some (body, rest)) : Closes depth body := by
  fun_induction splitClosing depth cs generalizing body rest with
  | case1 => cases h
  | case2 cs =>
    cases h
    exact Balanced.nil
  | case3 depth cs ih =>
    obtain ⟨⟨body', rest'⟩, hsplit, ⟨⟩⟩ := Option.map_eq_some_iff.mp h
    exact ⟨[], body', rfl, .nil, ih hsplit⟩
  | case4 depth c cs h0 hsucc ih =>
    obtain ⟨⟨body', rest'⟩, hsplit, ⟨⟩⟩ := Option.map_eq_some_iff.mp h
    have hclose := ne_close_of_cases h0 hsucc
    by_cases hopen : c = '('
    · subst hopen
      exact (ih hsplit).opened
    · rw [if_neg hopen] at ih hsplit
      exact (ih hsplit).other hopen hclose

/-- The bracket found is the one in front of which all brackets match. -/
theorem splitClosing_eq_some_iff :
    splitClosing 0 cs = some (body, rest) ↔ cs = body ++ ')' :: rest ∧ Balanced body := by
  constructor
  · exact fun h => ⟨eq_append_of_splitClosing h, closes_of_splitClosing h⟩
  · rintro ⟨rfl, hbody⟩
    rw [hbody.passed, splitClosing]
    simp

/-! ### Texts without an open bracket -/

theorem BracketsClosed.of_suffix (h : BracketsClosed cs) (hsuffix : ds <:+ cs) : BracketsClosed ds :=
  fun rest hrest => h rest (hrest.trans hsuffix)

theorem BracketsClosed.tail (h : BracketsClosed (c :: cs)) : BracketsClosed cs := h.of_suffix (List.suffix_cons c cs)

theorem BracketsClosed.exists_split (h : BracketsClosed ('(' :: cs)) :
    ∃ body after, splitClosing 0 cs = some (body, after) := by
  obtain ⟨body, after, hcs⟩ := h cs (List.suffix_refl _)
  exact ⟨body, after, splitClosing_eq_some_iff.mpr hcs⟩

theorem bracketsClosed_iff :
    BracketsClosed cs ↔ ∀ tail ∈ cs.tails, tail.head? = some '(' → (splitClosing 0 tail.tail).isSome = true := by
  simp only [BracketsClosed, List.mem_tails]
  constructor
  · intro h tail htail hhead
    obtain ⟨rest, rfl⟩ := List.head?_eq_some_iff.mp hhead
    obtain ⟨body, after, hrest⟩ := h rest htail
    rw [List.tail_cons, splitClosing_eq_some_iff.mpr hrest]
    rfl
  · intro h rest hrest
    obtain ⟨⟨body, after⟩, hsplit⟩ := Option.isSome_iff_exists.mp (h _ hrest rfl)
    exact ⟨body, after, splitClosing_eq_some_iff.mp hsplit⟩

instance (cs : List Char) : Decidable (BracketsClosed cs) := decidable_of_iff' _ bracketsClosed_iff

end GridWalk.Command
