import GridWalk.Text.Pieces
import Mathlib.Data.List.TakeWhile

/-! Texts that are cut. Blanks at the ends of a text are in none of its words, also where the text is cut into pieces
    first. Lines are the pieces between line ends, but for empty ones. -/

namespace GridWalk.Text

variable {p q : Char → Bool} {c : Char} {cs ds front back : List Char}

/-! ### Pieces -/

theorem pieces_eq_splitOnP (p : Char → Bool) (cs : List Char) : pieces p cs = cs.splitOnP p := by
  induction cs with
  | nil => rfl
  | cons c cs ih =>
    rw [pieces, ih, List.splitOnP_cons_eq_if_modifyHead]
    split
    · rfl
    · cases h : cs.splitOnP p with
      | nil => exact absurd h (List.splitOnP_ne_nil p cs)
      | cons piece rest => rfl

theorem exists_pieces (p : Char → Bool) (cs : List Char) : ∃ first rest, pieces p cs = first :: rest := by
  rw [pieces_eq_splitOnP]
  exact List.exists_cons_of_ne_nil (List.splitOnP_ne_nil p cs)

theorem pieces_cons_of_pos (h : p c = true) : pieces p (c :: cs) = [] :: pieces p cs := by
  simp [pieces, h]

theorem pieces_cons_of_neg {first : List Char} {rest : List (List Char)} (h : p c = false)
    (hcs : pieces p cs = first :: rest) : pieces p (c :: cs) = (c :: first) :: rest := by
  simp [pieces, h, hcs]

theorem pieces_append_cons (h : p c = true) (cs ds : List Char) :
    pieces p (cs ++ c :: ds) = pieces p cs ++ pieces p ds := by
  simp only [pieces_eq_splitOnP, List.splitOnP_append_cons cs ds h]

theorem pieces_of_forall (h : ∀ c ∈ cs, p c = false) : pieces p cs = [cs] := by
  rw [pieces_eq_splitOnP, List.splitOnP_eq_singleton h]

/-- What no separator stands in goes to the first piece, put in front. -/
theorem pieces_append_left (h : ∀ c ∈ front, p c = false) {first : List Char} {rest : List (List Char)}
    (hcs : pieces p cs = first :: rest) : pieces p (front ++ cs) = (front ++ first) :: rest := by
  induction front with
  | nil => exact hcs
  | cons c front ih =>
    simp only [List.forall_mem_cons] at h
    exact pieces_cons_of_neg h.1 (ih h.2)

/-- What no separator stands in goes to the last piece, put behind. -/
theorem pieces_append_right (h : ∀ c ∈ back, p c = false) (cs : List Char) :
    ∃ init last, pieces p cs = init ++ [last] ∧ pieces p (cs ++ back) = init ++ [last ++ back] := by
  induction cs with
  | nil => exact ⟨[], [], rfl, pieces_of_forall h⟩
  | cons c cs ih =>
    obtain ⟨init, last, hcs, happ⟩ := ih
    cases hc : p c with
    | true => exact ⟨[] :: init, last, by simp [pieces_cons_of_pos hc, hcs], by simp [pieces_cons_of_pos hc, happ]⟩
    | false =>
      cases init with
      | nil => exact ⟨[], c :: last, pieces_cons_of_neg hc hcs, pieces_cons_of_neg hc happ⟩
      | cons first init => exact ⟨(c :: first) :: init, last, pieces_cons_of_neg hc hcs, pieces_cons_of_neg hc happ⟩

/-- No separator stands in a piece. -/
theorem of_mem_pieces {piece : List Char} (h : piece ∈ pieces p cs) : ∀ c ∈ piece, p c = false := by
  induction cs generalizing piece with
  | nil =>
    obtain rfl := List.mem_singleton.mp h
    simp
  | cons c cs ih =>
    cases hc : p c with
    | true =>
      rw [pieces_cons_of_pos hc] at h
      rcases List.mem_cons.mp h with rfl | h
      · simp
      · exact ih h
    | false =>
      obtain ⟨first, rest, hcs⟩ := exists_pieces p cs
      rw [pieces_cons_of_neg hc hcs] at h
      rw [hcs] at ih
      rcases List.mem_cons.mp h with rfl | h
      · simpa [hc] using ih List.mem_cons_self
      · exact ih (List.mem_cons_of_mem _ h)

theorem pieces_map (f : Char → Char) (cs : List Char) :
    pieces p (cs.map f) = (pieces (fun c => p (f c)) cs).map (List.map f) := by
  induction cs with
  | nil => rfl
  | cons c cs ih =>
    rw [List.map_cons]
    cases hc : p (f c) with
    | true => rw [pieces_cons_of_pos hc, pieces_cons_of_pos (p := fun c => p (f c)) hc, ih]; rfl
    | false =>
      obtain ⟨first, rest, hcs⟩ := exists_pieces (fun c => p (f c)) cs
      rw [hcs] at ih
      rw [pieces_cons_of_neg hc ih, pieces_cons_of_neg (p := fun c => p (f c)) hc hcs]
      rfl

/-- A text cut at two kinds of separators is cut at the one kind and then at the other. -/
theorem pieces_or (p q : Char → Bool) (cs : List Char) :
    pieces (fun c => p c || q c) cs = (pieces p cs).flatMap (pieces q) := by
  induction cs with
  | nil => rfl
  | cons c cs ih =>
    obtain ⟨first, rest, hcs⟩ := exists_pieces p cs
    obtain ⟨first', rest', hfirst⟩ := exists_pieces q first
    rw [hcs, List.flatMap_cons, hfirst, List.cons_append] at ih
    cases hp : p c with
    | true =>
      rw [pieces_cons_of_pos (by simp [hp]), ih, pieces_cons_of_pos hp, hcs, List.flatMap_cons, List.flatMap_cons, hfirst]
      rfl
    | false =>
      rw [pieces_cons_of_neg hp hcs, List.flatMap_cons]
      cases hq : q c with
      | true => rw [pieces_cons_of_pos (by simp [hq]), ih, pieces_cons_of_pos hq, hfirst]; rfl
      | false => rw [pieces_cons_of_neg (by simp [hp, hq]) ih, pieces_cons_of_neg hq hfirst]; rfl

/-! ### Words -/

theorem words_cons_blank (h : isBlank c = true) (cs : List Char) : words (c :: cs) = words cs := by
  simp [words, pieces_cons_of_pos h]

theorem words_append_left (h : ∀ c ∈ front, isBlank c = true) (cs : List Char) : words (front ++ cs) = words cs := by
  induction front with
  | nil => rfl
  | cons c front ih =>
    simp only [List.forall_mem_cons] at h
    rw [List.cons_append, words_cons_blank h.1, ih h.2]

theorem words_append_right (h : ∀ c ∈ back, isBlank c = true) (cs : List Char) : words (cs ++ back) = words cs := by
  cases back with
  | nil => rw [List.append_nil]
  | cons c back =>
    simp only [List.forall_mem_cons] at h
    have hback : words back = [] := by
      have := words_append_left h.2 []
      rwa [List.append_nil] at this
    rw [words] at hback ⊢
    rw [pieces_append_cons h.1, List.filter_append, hback, List.append_nil, words]

/-! ### Blanks at the ends -/

theorem exists_trimming (p : Char → Bool) (cs : List Char) : ∃ front back, cs = front ++ (trimming p cs ++ back) ∧
    (∀ c ∈ front, p c = true) ∧ ∀ c ∈ back, p c = true := by
  let kept := (cs.dropWhile p).reverse
  refine ⟨cs.takeWhile p, (kept.takeWhile p).reverse, ?_, fun c hc => List.mem_takeWhile_imp hc, fun c hc => ?_⟩
  · rw [trimming, ← List.reverse_append, List.takeWhile_append_dropWhile, List.reverse_reverse,
      List.takeWhile_append_dropWhile]
  · exact List.mem_takeWhile_imp (List.mem_reverse.mp hc)

/-- A text is left as it is where there is nothing to trim. -/
theorem trimming_eq_self {p : Char → Bool} {cs : List Char} (h : ∀ c ∈ cs, p c = false) : trimming p cs = cs := by
  have hdrop : ∀ ds ⊆ cs, ds.dropWhile p = ds := by
    intro ds hds
    refine List.dropWhile_eq_self_iff.mpr fun hpos => ?_
    rw [h _ (hds (List.getElem_mem hpos))]
    exact Bool.false_ne_true
  rw [trimming, hdrop cs (List.Subset.refl cs), hdrop _ (List.reverse_subset.mpr (List.Subset.refl cs)),
    List.reverse_reverse]

/-- Cutting a text without the blanks at its ends gives the same words, piece by piece. -/
theorem map_words_pieces_trim (h : ∀ c, isBlank c = true → q c = false) (cs : List Char) :
    (pieces q (trim cs)).map words = (pieces q cs).map words := by
  obtain ⟨front, back, hcs, hfront, hback⟩ := exists_trimming isBlank cs
  obtain ⟨init, last, htrim, happ⟩ := pieces_append_right (fun c hc => h c (hback c hc)) (trim cs)
  have hleft : ∀ ds, (pieces q (front ++ ds)).map words = (pieces q ds).map words := by
    intro ds
    obtain ⟨first, rest, hds⟩ := exists_pieces q ds
    rw [pieces_append_left (fun c hc => h c (hfront c hc)) hds, hds, List.map_cons, List.map_cons,
      words_append_left hfront]
  calc (pieces q (trim cs)).map words
    _ = (pieces q (trim cs ++ back)).map words := by
      rw [htrim, happ, List.map_append, List.map_append, List.map_singleton, List.map_singleton,
        words_append_right hback]
    _ = (pieces q cs).map words := by rw [← hleft, trim, ← hcs]

/-- What a text begins with, blanks aside. -/
theorem head?_trim_eq_some_iff (h : isBlank c = false) :
    (trim cs).head? = some c ↔ ∃ front tail, cs = front ++ c :: tail ∧ ∀ b ∈ front, isBlank b = true := by
  constructor
  · intro hhead
    obtain ⟨front, back, hcs, hfront, -⟩ := exists_trimming isBlank cs
    obtain ⟨tail, htail⟩ := List.head?_eq_some_iff.mp hhead
    rw [trim] at htail
    exact ⟨front, tail ++ back, by rw [hcs, htail]; rfl, hfront⟩
  · rintro ⟨front, tail, rfl, hfront⟩
    have hdrop : (front ++ c :: tail).dropWhile isBlank = c :: tail := by
      rw [List.dropWhile_append_of_pos hfront, List.dropWhile_cons_of_neg (by simp [h])]
    rw [trim, trimming, hdrop, List.reverse_cons, List.dropWhile_append]
    split
    · simp [h]
    · simp

/-! ### Lines -/

/-- Text put in front of the first line. -/
def prepend (front : List Char) : List (List Char) → List (List Char)
  | [] => [front]
  | line :: rest => (front ++ line) :: rest

theorem prepend_prepend (front cs : List Char) (ls : List (List Char)) :
    prepend front (prepend cs ls) = prepend (front ++ cs) ls := by
  cases ls <;> simp [prepend]

theorem pieces_eq_prepend (h : ¬p c = true) (cs : List Char) : pieces p (c :: cs) = prepend [c] (pieces p cs) := by
  obtain ⟨first, rest, hcs⟩ := exists_pieces p cs
  rw [hcs, pieces_cons_of_neg (by simpa using h) hcs]
  rfl

theorem lines_eq_prepend (h : ¬endsLine c = true) (cs : List Char) : lines (c :: cs) = prepend [c] (lines cs) := by
  rw [lines, if_neg h]
  · cases lines cs <;> rfl
  · rintro _ rfl
    exact absurd rfl h

/-- What comes of the lines of a text one after the other comes of the pieces between its line ends, if nothing comes of
    an empty line. -/
theorem flatMap_lines {α : Type} {f : List Char → List α} (h : f [] = []) (cs : List Char) :
    (lines cs).flatMap f = (pieces endsLine cs).flatMap f := by
  have hplain : ∀ ls : List (List Char), (prepend [] ls).flatMap f = ls.flatMap f := by
    intro ls
    cases ls <;> simp [prepend, h]
  -- The first line may have begun before the text.
  have hbegun : ∀ front, (prepend front (lines cs)).flatMap f = (prepend front (pieces endsLine cs)).flatMap f := by
    induction cs using lines.induct with
    | case1 => simp [lines, pieces, prepend]
    | case2 cs ih =>
      intro front
      have hrest := ih []
      rw [hplain, hplain] at hrest
      rw [lines, pieces_cons_of_pos rfl, pieces_cons_of_pos rfl]
      simp only [prepend, List.flatMap_cons, h, hrest, List.nil_append]
    | case3 c cs hreturn hend ih =>
      intro front
      have hrest := ih []
      rw [hplain, hplain] at hrest
      rw [lines, if_pos hend, pieces_cons_of_pos hend]
      · simp only [prepend, List.flatMap_cons, hrest]
      · exact hreturn
    | case4 c cs hreturn hend hnil ih =>
      intro front
      rw [lines_eq_prepend hend, pieces_eq_prepend hend,
        prepend_prepend, prepend_prepend, ih]
    | case5 c cs hreturn hend line rest hlines ih =>
      intro front
      rw [lines_eq_prepend hend, pieces_eq_prepend hend,
        prepend_prepend, prepend_prepend, ih]
  rw [← hplain, hbegun, hplain]

end GridWalk.Text
