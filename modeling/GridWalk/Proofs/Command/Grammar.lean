import GridWalk.Command.Reading
import GridWalk.Proofs.Command.Count

/-! The grammar of command texts, said without the way in which they are read. A text is a sequence of
    terms with commas before, after and between them; the grammar also tells the program that a text
    means. The texts of the grammar begin with no digit, and their brackets match among themselves. -/

namespace GridWalk.Command
open Text

/-- Where commas are required, a text with a further term begins with one. -/
def Separated (requireComma : Bool) (cs : List Char) (p : Program) : Prop :=
  requireComma = true → p ≠ [] → cs.head? = some ','

/-- The text means the program. A move is a letter and a number of steps; a million stands for all larger
    ones, and zero steps make no move. A loop is a bracketed text of at least one term, `X` and a number of
    repetitions from one to 999999; loops within it give their moves once. The digits of a number are all
    that follow, for no text of the grammar begins with a digit. -/
inductive Derives (requireComma : Bool) : List Char → Program → Prop
  | nil : Derives requireComma [] []
  | comma {cs : List Char} {p : Program} (rest : Derives requireComma cs p) : Derives requireComma (',' :: cs) p
  | move {m : Move} {digits cs : List Char} {p : Program}
      (number : ∀ c ∈ digits, isPlainDigit c = true)
      (steps : m.steps = min (decimalNumber digits) 1000000)
      (separated : Separated requireComma cs p) (rest : Derives requireComma cs p) :
      Derives requireComma (m.direction.symbol :: (digits ++ cs)) (.move m :: p)
  | loop {body digits cs : List Char} {q p : Program}
      (inner : Derives requireComma body q) (nonempty : q ≠ [])
      (number : ∀ c ∈ digits, isPlainDigit c = true)
      (pos : 1 ≤ decimalNumber digits) (le : decimalNumber digits ≤ 999999)
      (separated : Separated requireComma cs p) (rest : Derives requireComma cs p) :
      Derives requireComma ('(' :: (body ++ ')' :: 'X' :: (digits ++ cs)))
        (.loop q.writtenMoves (decimalNumber digits) :: p)

/-- The texts of the grammar. -/
def language (requireComma : Bool) : Set (List Char) := {cs | ∃ p, Derives requireComma cs p}

/-! ### Beginnings -/

theorem isPlainDigit_symbol (d : Direction) : isPlainDigit d.symbol = false := by
  cases d <;> rfl

theorem Derives.noDigitFirst {requireComma : Bool} {cs : List Char} {p : Program} (h : Derives requireComma cs p) :
    NoDigitFirst cs := by
  intro c hc
  cases h with
  | nil => cases hc
  | comma =>
    cases hc
    rfl
  | move =>
    cases hc
    exact isPlainDigit_symbol _
  | loop =>
    cases hc
    rfl

/-- The program of a text has a move if it has a term. -/
theorem Derives.writtenMoves_ne_nil {requireComma : Bool} {cs : List Char} {p : Program}
    (h : Derives requireComma cs p) : p ≠ [] → p.writtenMoves ≠ [] := by
  induction h with
  | nil => exact fun hp => absurd rfl hp
  | comma _ ih => exact ih
  | move => exact fun _ => by simp [Program.writtenMoves, Term.moves]
  | loop _ hne _ _ _ _ _ ih =>
    intro _ hnil
    simp only [Program.writtenMoves, List.flatMap_cons, List.append_eq_nil_iff, Term.moves] at hnil
    exact ih hne hnil.1

/-- A text with a term makes a move: its loops have bodies and repeat at least once. -/
theorem Derives.unroll_ne_nil {requireComma : Bool} {cs : List Char} {p : Program} (h : Derives requireComma cs p) :
    p ≠ [] → p.unroll ≠ [] := by
  induction h with
  | nil => exact fun hp => absurd rfl hp
  | comma _ ih => exact ih
  | move => exact fun _ => by simp [Program.unroll, Term.unroll]
  | @loop body digits cs q p hq hne _ hpos _ _ _ _ _ =>
    intro _ hnil
    obtain ⟨m, hm⟩ := List.exists_mem_of_ne_nil _ (hq.writtenMoves_ne_nil hne)
    have hmem : m ∈ Term.unroll (.loop q.writtenMoves (decimalNumber digits)) := by
      rw [Term.unroll, Int.toNat_natCast, List.mem_flatten]
      exact ⟨_, List.mem_replicate.mpr ⟨Nat.ne_of_gt hpos, rfl⟩, hm⟩
    rw [Program.unroll, List.flatMap_cons, List.append_eq_nil_iff] at hnil
    rw [hnil.1] at hmem
    cases hmem

/-! ### Brackets -/

/-- The search for a closing bracket passes over the text. -/
def Passed (cs : List Char) : Prop :=
  ∀ depth tail, splitClosing depth (cs ++ tail) = (splitClosing depth tail).map fun s => (cs ++ s.1, s.2)

theorem splitClosing_cons {c : Char} (h : c ≠ ')') (depth : Nat) (cs : List Char) :
    splitClosing depth (c :: cs) =
      (splitClosing (if c = '(' then depth + 1 else depth) cs).map fun s => (c :: s.1, s.2) := by
  rw [splitClosing]
  · exact fun _ => h
  · exact fun _ _ => h

theorem Passed.nil : Passed [] := fun depth tail => by simp

theorem Passed.append {cs ds : List Char} (hcs : Passed cs) (hds : Passed ds) : Passed (cs ++ ds) := by
  intro depth tail
  rw [List.append_assoc, hcs, hds, Option.map_map]
  congr 1
  funext s
  simp

theorem Passed.cons {c : Char} {cs : List Char} (hopen : c ≠ '(') (hclose : c ≠ ')') (h : Passed cs) :
    Passed (c :: cs) := by
  intro depth tail
  rw [List.cons_append, splitClosing_cons hclose, if_neg hopen, h, Option.map_map]
  rfl

theorem Passed.digits {ds : List Char} (h : ∀ c ∈ ds, isPlainDigit c = true) : Passed ds := by
  induction ds with
  | nil => exact Passed.nil
  | cons c ds ih =>
    have hc := h c (by simp)
    refine Passed.cons ?_ ?_ (ih fun d hd => h d (List.mem_cons_of_mem _ hd))
    · rintro rfl
      cases hc
    · rintro rfl
      cases hc

theorem Passed.bracketed {cs : List Char} (h : Passed cs) : Passed ('(' :: (cs ++ [')'])) := by
  intro depth tail
  rw [List.cons_append, splitClosing_cons (by decide), if_pos rfl, List.append_assoc, h]
  simp only [List.singleton_append, splitClosing, Option.map_map]
  congr 1
  funext s
  simp

theorem symbol_ne_open (d : Direction) : d.symbol ≠ '(' := by
  cases d <;> decide

theorem symbol_ne_close (d : Direction) : d.symbol ≠ ')' := by
  cases d <;> decide

theorem Derives.passed {requireComma : Bool} {cs : List Char} {p : Program} (h : Derives requireComma cs p) :
    Passed cs := by
  induction h with
  | nil => exact Passed.nil
  | comma _ ih => exact ih.cons (by decide) (by decide)
  | move hd _ _ _ ih =>
    exact ((Passed.digits hd).append ih).cons (symbol_ne_open _) (symbol_ne_close _)
  | @loop body digits cs q p _ _ hd _ _ _ _ ihq ih =>
    have hrest := ((Passed.digits hd).append ih).cons (c := 'X') (by decide) (by decide)
    have := ihq.bracketed.append hrest
    simpa using this

/-- The closing bracket behind a text of the grammar is the one that closes a bracket before it. -/
theorem Derives.splitClosing_append {requireComma : Bool} {cs : List Char} {p : Program} (h : Derives requireComma cs p)
    (tail : List Char) : splitClosing 0 (cs ++ ')' :: tail) = some (cs, tail) := by
  rw [h.passed, splitClosing]
  simp

end GridWalk.Command
