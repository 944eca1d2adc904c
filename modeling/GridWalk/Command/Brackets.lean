/-! # Matching brackets

The text after an opening bracket is split at the bracket that closes it: the first closing bracket
after which no bracket inside is open. -/

namespace GridWalk.Command

/-- What stands before the bracket that closes the open one, when `depth` further ones are open, and
what follows it. -/
def splitClosing : (depth : Nat) → List Char → Option (List Char × List Char)
  | _, [] => none
  | 0, ')' :: cs => some ([], cs)
  | depth + 1, ')' :: cs => (splitClosing depth cs).map fun (body, rest) => (')' :: body, rest)
  | depth, c :: cs =>
    (splitClosing (if c = '(' then depth + 1 else depth) cs).map fun (body, rest) => (c :: body, rest)

/-- Nothing is lost at the split but the closing bracket. -/
theorem eq_append_of_splitClosing {depth : Nat} {cs body rest : List Char}
    (h : splitClosing depth cs = some (body, rest)) : cs = body ++ ')' :: rest := by
  fun_induction splitClosing depth cs generalizing body rest with
  | case1 => simp at h
  | case2 cs => simp_all
  | case3 depth cs ih =>
    obtain ⟨⟨b, r⟩, hb, he⟩ := Option.map_eq_some_iff.1 h
    simp only [Prod.mk.injEq] at he
    obtain ⟨rfl, rfl⟩ := he
    simp [← ih hb]
  | case4 depth c cs _ _ ih =>
    obtain ⟨⟨b, r⟩, hb, he⟩ := Option.map_eq_some_iff.1 h
    simp only [Prod.mk.injEq] at he
    obtain ⟨rfl, rfl⟩ := he
    simp [← ih hb]

end GridWalk.Command
