import GridWalk.Json.Token
import GridWalk.Json.Writing
import GridWalk.Proofs.Command.Count
import GridWalk.Proofs.Number.Short

/-! The tokens of a written value. A value whose numbers are whole is cut into the tokens that it is spelled
    with, over how many lines it may be written, as long as what follows does not lengthen a number. -/

namespace GridWalk.Json

variable {cs ds rest : List Char} {ts us : List Token} {c : Char}

/-! ### Cutting -/

/-- The characters are cut into the tokens when the rest follows them. -/
def CutsTo (cs : List Char) (ts : List Token) (rest : List Char) : Prop :=
  ts.length ≤ cs.length ∧ ∀ fuel, tokensUpTo (ts.length + fuel) (cs ++ rest) = ts ++ tokensUpTo fuel rest

theorem cutsTo_nil : CutsTo [] [] rest := by
  refine ⟨Nat.le_refl 0, fun fuel => ?_⟩
  rw [List.length_nil, Nat.zero_add]
  rfl

theorem tokensUpTo_space (h : isSpace c = true) (fuel : Nat) : tokensUpTo fuel (c :: rest) = tokensUpTo fuel rest := by
  cases fuel with
  | zero => rfl
  | succ fuel => rw [tokensUpTo, tokensUpTo, List.dropWhile_cons_of_pos h]

theorem cutsTo_space (h : isSpace c = true) : CutsTo [c] [] rest := by
  refine ⟨Nat.zero_le _, fun fuel => ?_⟩
  rw [List.length_nil, Nat.zero_add]
  exact tokensUpTo_space h fuel

theorem cutsTo_token {t : Token} (hspace : isSpace c = false) (h : takeToken c (cs ++ rest) = (t, rest)) :
    CutsTo (c :: cs) [t] rest := by
  refine ⟨Nat.succ_le_succ (Nat.zero_le _), fun fuel => ?_⟩
  have hdrop : (c :: (cs ++ rest)).dropWhile isSpace = c :: (cs ++ rest) :=
    List.dropWhile_cons_of_neg (by rw [hspace]; exact Bool.false_ne_true)
  rw [List.length_singleton, Nat.add_comm, List.cons_append, tokensUpTo, hdrop]
  change (takeToken c (cs ++ rest)).1 :: tokensUpTo fuel (takeToken c (cs ++ rest)).2 = _
  rw [h]
  rfl

theorem CutsTo.append (h : CutsTo cs ts (ds ++ rest)) (h' : CutsTo ds us rest) :
    CutsTo (cs ++ ds) (ts ++ us) rest := by
  refine ⟨?_, fun fuel => ?_⟩
  · rw [List.length_append, List.length_append]
    exact Nat.add_le_add h.1 h'.1
  · rw [List.length_append, List.append_assoc, Nat.add_assoc, h.2, h'.2, List.append_assoc]

theorem CutsTo.cons (hspace : isSpace c = false) {t : Token} (hc : ∀ cs, takeToken c cs = (t, cs))
    (h : CutsTo cs ts rest) : CutsTo (c :: cs) (t :: ts) rest := by
  have htoken : CutsTo [c] [t] (cs ++ rest) := cutsTo_token hspace (hc _)
  exact htoken.append h

theorem CutsTo.blank (h : CutsTo cs ts rest) (hspace : isSpace c = true) : CutsTo (c :: cs) ts rest :=
  (cutsTo_space hspace).append h

theorem CutsTo.blanks (h : CutsTo cs ts (ds ++ rest)) (h' : CutsTo ds [] rest) : CutsTo (cs ++ ds) ts rest := by
  have happend := h.append h'
  rwa [List.append_nil] at happend

theorem tokens_of_cutsTo (h : CutsTo cs ts []) : tokens cs = ts := by
  obtain ⟨extra, hextra⟩ := Nat.exists_eq_add_of_le h.1
  have hcut := h.2 extra
  have hnone : tokensUpTo extra [] = [] := by cases extra <;> rfl
  rwa [List.append_nil, ← hextra, hnone, List.append_nil] at hcut

/-! ### Texts -/

theorem hexNumber?_hexDigits {n : Nat} (h : n < 32) : hexNumber? (Text.hexDigits 4 n) = some n := by
  revert n
  decide

theorem not_surrogate (c : Char) : ¬(0xD800 ≤ c.toNat ∧ c.toNat < 0xE000) := by
  have hvalid : c.toNat.isValidChar := c.valid
  unfold Nat.isValidChar at hvalid
  omega

/-- Characters are no surrogates, so each of them is a code unit of its own. -/
theorem ofUnits_map_toNat : (cs : List Char) → ofUnits (cs.map Char.toNat) = cs
  | [] => rfl
  | [c] => by simp [ofUnits, not_surrogate c]
  | c :: d :: cs => by
    have hpair : ¬(0xD800 ≤ c.toNat ∧ c.toNat < 0xDC00 ∧ 0xDC00 ≤ d.toNat ∧ d.toNat < 0xE000) := by
      have hc := not_surrogate c
      omega
    have ih := ofUnits_map_toNat (d :: cs)
    rw [List.map_cons] at ih
    simp [ofUnits, hpair, not_surrogate c, ih, and_assoc]

theorem takeUnits_unit {a b c d : Char} {n : Nat} (h : hexNumber? [a, b, c, d] = some n) (cs : List Char) :
    takeUnits ('\\' :: 'u' :: a :: b :: c :: d :: cs) =
      (takeUnits cs).map fun (units, rest) => (n :: units, rest) := by
  rw [takeUnits, h]

theorem takeUnits_plain {c : Char} (hquote : c ≠ '"') (hslash : c ≠ '\\') (h : ¬c.toNat < 32) (cs : List Char) :
    takeUnits (c :: cs) = (takeUnits cs).map fun (units, rest) => (c.toNat :: units, rest) := by
  rw [takeUnits.eq_def]
  split
  · rename_i heq; cases heq
  · rename_i heq; exact absurd (List.cons.inj heq).1 hquote
  · rename_i heq; exact absurd (List.cons.inj heq).1 hslash
  · rename_i heq; exact absurd (List.cons.inj heq).1 hslash
  · rename_i heq
    obtain ⟨rfl, rfl⟩ := List.cons.inj heq
    rw [if_neg h]

theorem takeUnits_escaped (c : Char) (cs : List Char) :
    takeUnits (escaped c ++ cs) = (takeUnits cs).map fun (units, rest) => (c.toNat :: units, rest) := by
  unfold escaped
  split
  case isTrue h =>
    rw [Bool.or_eq_true, decide_eq_true_eq, decide_eq_true_eq] at h
    rcases h with rfl | rfl <;> rfl
  case isFalse hquote =>
    rw [Bool.or_eq_true, decide_eq_true_eq, decide_eq_true_eq, not_or] at hquote
    split
    case isTrue h => rw [h]; rfl
    case isFalse =>
      split
      case isTrue h => exact takeUnits_unit (hexNumber?_hexDigits h) cs
      case isFalse h => exact takeUnits_plain hquote.1 hquote.2 h cs

theorem takeUnits_text (cs rest : List Char) :
    takeUnits (cs.flatMap escaped ++ '"' :: rest) = some (cs.map Char.toNat, rest) := by
  induction cs with
  | nil => rfl
  | cons c cs ih => rw [List.flatMap_cons, List.append_assoc, takeUnits_escaped, ih, Option.map_some, List.map_cons]

theorem cutsTo_textChars (s : String) : CutsTo (textChars s) [.text s] rest := by
  have htake : takeToken '"' (s.toList.flatMap escaped ++ ['"'] ++ rest) = (.text s, rest) := by
    unfold takeToken
    rw [List.append_assoc, List.singleton_append, takeUnits_text]
    simp [ofUnits_map_toNat]
  rw [textChars, List.cons_append]
  exact cutsTo_token rfl htake

/-! ### Words -/

theorem cutsTo_null : CutsTo "null".toList [.word .null] rest := cutsTo_token rfl rfl

theorem cutsTo_bool (b : Bool) : CutsTo (if b then "true" else "false").toList [.word (.bool b)] rest := by
  cases b with
  | false => exact cutsTo_token rfl rfl
  | true => exact cutsTo_token rfl rfl

/-! ### Numbers -/

/-- Whether a whole number ends before a character. -/
def endsNumber (c : Char) : Bool := !Text.isPlainDigit c && c ≠ '.' && c ≠ 'e' && c ≠ 'E'

/-- The rest does not lengthen a number. -/
def NumberEnds (rest : List Char) : Prop := rest.head?.all endsNumber = true

theorem endsNumber_iff {c : Char} :
    endsNumber c = true ↔ Text.isPlainDigit c = false ∧ c ≠ '.' ∧ c ≠ 'e' ∧ c ≠ 'E' := by
  simp [endsNumber, and_assoc]

theorem takeDigits_append (hds : ∀ c ∈ ds, Text.isPlainDigit c = true) (hrest : NumberEnds rest) :
    (ds ++ rest).takeWhile Text.isPlainDigit = ds ∧ (ds ++ rest).dropWhile Text.isPlainDigit = rest := by
  have hfirst : Command.NoDigitFirst rest := by
    cases rest with
    | nil => rintro c ⟨⟩
    | cons d rest =>
      rintro c ⟨⟩
      exact (endsNumber_iff.mp hrest).1
  exact Prod.mk.inj (Command.takeDigits_append hds hfirst)

/-- A number above zero is not written with a zero in front. -/
theorem head_toDigits_ne_zero {n : Nat} (hn : n ≠ 0) : Nat.toDigits 10 n = c :: ds → c ≠ '0' := by
  rintro h rfl
  have hds : ∀ d ∈ ds, Text.isPlainDigit d = true := fun d hd =>
    Text.isPlainDigit_of_mem_toDigits (h ▸ List.mem_cons_of_mem _ hd)
  have hvalue : Text.decimalNumber ds = n := by
    rw [← Text.decimalNumber_toDigits n, h, Text.decimalNumber_cons]
    simp [Text.digitValue]
  have hlt : n < 10 ^ ds.length := hvalue ▸ Text.decimalNumber_lt hds
  have hpos : 0 < ds.length := by
    rcases ds with - | ⟨d, ds⟩
    · exact absurd hvalue.symm hn
    · exact Nat.succ_pos _
  have hle := (Nat.length_toDigits_le_iff (by decide) hpos).mpr hlt
  rw [h, List.length_cons] at hle
  omega

theorem takeWhole_toDigits (n : Nat) (hrest : NumberEnds rest) :
    takeWhole (Nat.toDigits 10 n ++ rest) = (Nat.toDigits 10 n, rest) := by
  have hdigits := takeDigits_append (fun c => Text.isPlainDigit_of_mem_toDigits (n := n)) hrest
  by_cases hn : n = 0
  · rw [hn, Nat.toDigits_zero]
    rfl
  · rw [takeWhole.eq_def]
    split
    case h_1 cs heq =>
      obtain ⟨c, ds, hcons⟩ := List.exists_cons_of_ne_nil (Nat.toDigits_ne_nil (n := n) (b := 10))
      rw [hcons, List.cons_append] at heq
      exact absurd (List.cons.inj heq).1 (head_toDigits_ne_zero hn hcons)
    case h_2 => rw [hdigits.1, hdigits.2]

theorem takeFraction_of_ends (hrest : NumberEnds rest) : takeFraction rest = ([], rest) := by
  rw [takeFraction.eq_def]
  split
  case h_1 => exact absurd rfl (endsNumber_iff.mp hrest).2.1
  case h_2 => rfl

theorem takeExponent_of_ends (hrest : NumberEnds rest) : takeExponent rest = ([], rest) := by
  cases rest with
  | nil => rfl
  | cons c rest =>
    obtain ⟨-, -, he, hE⟩ := endsNumber_iff.mp hrest
    simp [takeExponent, he, hE]

theorem takeNumber_toDigits (negative : Bool) (n : Nat) (hrest : NumberEnds rest) :
    takeNumber negative (Nat.toDigits 10 n ++ rest) = (.whole negative (Nat.toDigits 10 n), rest) := by
  rw [takeNumber, takeWhole_toDigits n hrest]
  simp [takeFraction_of_ends hrest, takeExponent_of_ends hrest, Nat.toDigits_ne_nil]

/-- No word begins with a digit, and the one that begins with a sign goes on with a letter. -/
theorem takeWord?_digit (h : Text.isPlainDigit c = true) (cs : List Char) :
    takeWord? (c :: cs) = none ∧ takeWord? ('-' :: c :: cs) = none := by
  have hne : ∀ d : Char, Text.isPlainDigit d = false → d ≠ c := by
    rintro d hd rfl
    exact absurd h (Bool.eq_false_iff.mp hd)
  have hnull := hne 'n' rfl
  have htrue := hne 't' rfl
  have hfalse := hne 'f' rfl
  have hnan := hne 'N' rfl
  have hinfinity := hne 'I' rfl
  have hsign := hne '-' rfl
  simp [takeWord?, wordValues, afterWord?, hnull, htrue, hfalse, hnan, hinfinity, hsign]

/-- A digit begins a number and nothing else. -/
theorem takeToken_digit (h : Text.isPlainDigit c = true) (cs : List Char) :
    takeToken c cs = takeNumber false (c :: cs) ∧ takeToken '-' (c :: cs) = takeNumber true (c :: cs) := by
  have hword := takeWord?_digit h cs
  refine ⟨?_, ?_⟩
  · rw [takeToken.eq_def]
    split
    all_goals try exact absurd h (by decide)
    rw [hword.1]
    exact if_neg (by rintro rfl; exact absurd h (by decide))
  · rw [takeToken, hword.2]
    · rfl
    all_goals decide

theorem isSpace_digit (h : Text.isPlainDigit c = true) : isSpace c = false := by
  rw [Bool.eq_false_iff]
  intro hspace
  simp only [isSpace, Bool.or_eq_true, decide_eq_true_eq] at hspace
  rcases hspace with ((rfl | rfl) | rfl) | rfl <;> exact absurd h (by decide)

/-- The token of a whole number. -/
def numeral (n : Int) : Token := .whole (n < 0) (Nat.toDigits 10 n.natAbs)

theorem toList_text_whole (n : Int) : (Number.whole n).text.toList =
    if n < 0 then '-' :: Nat.toDigits 10 n.natAbs else Nat.toDigits 10 n.natAbs := by
  cases n with
  | ofNat n => exact (Nat.toList_repr).trans (if_neg (Int.not_lt.mpr (Int.natCast_nonneg n))).symm
  | negSucc n =>
    rw [if_pos (Int.negSucc_lt_zero n)]
    change ("-" ++ (n + 1).repr).toList = _
    rw [String.toList_append, Nat.toList_repr]
    rfl

theorem cutsTo_whole (n : Int) (hrest : NumberEnds rest) :
    CutsTo (Number.whole n).text.toList [numeral n] rest := by
  obtain ⟨c, ds, hcons⟩ := List.exists_cons_of_ne_nil (Nat.toDigits_ne_nil (n := n.natAbs) (b := 10))
  have hc : Text.isPlainDigit c = true :=
    Text.isPlainDigit_of_mem_toDigits (hcons ▸ List.mem_cons_self)
  have htake (negative : Bool) : takeNumber negative (c :: ds ++ rest) = (.whole negative (c :: ds), rest) := by
    have hnumber := takeNumber_toDigits negative n.natAbs hrest
    rwa [hcons] at hnumber
  rw [toList_text_whole, numeral, hcons]
  by_cases hn : n < 0
  · rw [if_pos hn, decide_eq_true hn]
    exact cutsTo_token rfl ((takeToken_digit hc _).2.trans (htake true))
  · rw [if_neg hn, decide_eq_false hn]
    exact cutsTo_token (isSpace_digit hc) ((takeToken_digit hc _).1.trans (htake false))

/-! ### Values -/

mutual

/-- The tokens that a value is spelled with. -/
def spelled : Json → List Token
  | null => [.word .null]
  | bool b => [.word (.bool b)]
  | number (.whole n) => [numeral n]
  | number (.real x) => [.word (.number (.real x))]
  | text s => [.text s]
  | list items => .openList :: spelledItems items ++ [.closeList]
  | object fields => .openObject :: spelledFields fields ++ [.closeObject]

/-- The tokens of the items of a list. -/
def spelledItems : List Json → List Token
  | [] => []
  | [v] => spelled v
  | v :: vs => spelled v ++ .comma :: spelledItems vs

/-- The tokens of the fields of an object. -/
def spelledFields : List (String × Json) → List Token
  | [] => []
  | [(k, v)] => .text k :: .colon :: spelled v
  | (k, v) :: fs => .text k :: .colon :: spelled v ++ .comma :: spelledFields fs

end

/-- Every number of the value, however deep it lies, has the property. -/
inductive AllNumbers (p : Number → Prop) : Json → Prop
  | null : AllNumbers p .null
  | bool (b : Bool) : AllNumbers p (.bool b)
  | number (x : Number) (h : p x) : AllNumbers p (.number x)
  | text (s : String) : AllNumbers p (.text s)
  | list (items : List Json) (h : ∀ v ∈ items, AllNumbers p v) : AllNumbers p (.list items)
  | object (fields : List (String × Json)) (h : ∀ f ∈ fields, AllNumbers p f.2) : AllNumbers p (.object fields)

/-- The numbers of the value are whole and short. -/
def Legible (v : Json) : Prop := v.AllNumbers fun x => ∃ n, x = .whole n ∧ Short n

theorem cutsTo_lineStart (level : Nat) : CutsTo (lineStart level) [] rest := by
  have hblanks : ∀ n, CutsTo (List.replicate n ' ') [] rest := by
    intro n
    induction n with
    | zero => exact cutsTo_nil
    | succ n ih => exact ih.blank rfl
  exact (hblanks _).blank rfl

theorem numberEnds_lineStart (level : Nat) (cs : List Char) : NumberEnds (lineStart level ++ cs) := rfl

/-- The value is cut into the tokens that it is spelled with, wherever it stands. -/
def CutsWell (v : Json) : Prop :=
  ∀ (level : Nat) (rest : List Char), NumberEnds rest → CutsTo (indented level v) (spelled v) rest

theorem cutsTo_items {items : List Json} (h : ∀ v ∈ items, CutsWell v) (level : Nat) (hrest : NumberEnds rest) :
    CutsTo (indentedItems level items) (spelledItems items) rest := by
  induction items with
  | nil => exact cutsTo_nil
  | cons v vs ih =>
    have hv := h v List.mem_cons_self
    cases vs with
    | nil => exact (cutsTo_lineStart level).append (hv level rest hrest)
    | cons w ws =>
      have hws := ih fun u hu => h u (List.mem_cons_of_mem _ hu)
      have hcomma : CutsTo (',' :: indentedItems level (w :: ws)) (.comma :: spelledItems (w :: ws)) rest :=
        hws.cons rfl fun _ => rfl
      have hend : NumberEnds (',' :: indentedItems level (w :: ws) ++ rest) := rfl
      exact ((cutsTo_lineStart level).append (hv level _ hend)).append hcomma

theorem cutsTo_fields {fields : List (String × Json)} (h : ∀ f ∈ fields, CutsWell f.2) (level : Nat)
    (hrest : NumberEnds rest) : CutsTo (indentedFields level fields) (spelledFields fields) rest := by
  induction fields with
  | nil => exact cutsTo_nil
  | cons f fs ih =>
    obtain ⟨k, v⟩ := f
    have hv : CutsWell v := h (k, v) List.mem_cons_self
    have hkey (ds) : CutsTo (lineStart level ++ textChars k) [.text k] ds :=
      (cutsTo_lineStart level).append (cutsTo_textChars k)
    have hvalue (ds) (hds : NumberEnds ds) :
        CutsTo (':' :: ' ' :: indented level v) (.colon :: spelled v) ds :=
      ((hv level ds hds).blank rfl).cons rfl fun _ => rfl
    cases fs with
    | nil => exact (hkey _).append (hvalue rest hrest)
    | cons g gs =>
      have hgs := ih fun f hf => h f (List.mem_cons_of_mem _ hf)
      have hcomma : CutsTo (',' :: indentedFields level (g :: gs)) (.comma :: spelledFields (g :: gs)) rest :=
        hgs.cons rfl fun _ => rfl
      exact ((hkey _).append (hvalue (',' :: indentedFields level (g :: gs) ++ rest) rfl)).append hcomma

theorem cutsWell_of_legible {v : Json} (h : Legible v) : CutsWell v := by
  unfold Legible at h
  induction h with
  | null => exact fun _ _ _ => cutsTo_null
  | bool b => exact fun _ _ _ => cutsTo_bool b
  | number x hx =>
    obtain ⟨n, rfl, -⟩ := hx
    exact fun _ _ hrest => cutsTo_whole n hrest
  | text s => exact fun _ _ _ => cutsTo_textChars s
  | list items _ ih =>
    intro level rest _
    have hclose : CutsTo [']'] [.closeList] rest := cutsTo_token rfl rfl
    cases items with
    | nil => exact hclose.cons rfl fun _ => rfl
    | cons v vs =>
      have hitems := cutsTo_items ih (level + 1) (numberEnds_lineStart level (']' :: rest))
      exact ((hitems.cons rfl fun _ => rfl).blanks (cutsTo_lineStart level)).append hclose
  | object fields _ ih =>
    intro level rest _
    have hclose : CutsTo ['}'] [.closeObject] rest := cutsTo_token rfl rfl
    cases fields with
    | nil => exact hclose.cons rfl fun _ => rfl
    | cons f fs =>
      have hfields := cutsTo_fields ih (level + 1) (numberEnds_lineStart level ('}' :: rest))
      exact ((hfields.cons rfl fun _ => rfl).blanks (cutsTo_lineStart level)).append hclose

theorem tokens_manyLines {v : Json} (h : Legible v) : tokens v.manyLines.toList = v.spelled := by
  have hcut := cutsWell_of_legible h 0 [] rfl
  rw [manyLines, String.toList_ofList]
  exact tokens_of_cutsTo hcut

end GridWalk.Json
