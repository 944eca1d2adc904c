import GridWalk.Json.Reading
import GridWalk.Proofs.Json.Tokens

/-! Reading what was written. The reader takes the tokens of a value for that value, whatever is open around
    it, so a text that a value was written to over several lines is read as the value. -/

namespace GridWalk.Json
open State

variable {v : Json} {stack : List Frame} {n : Int}

theorem wholeNumber_numeral (h : Short n) : wholeNumber (n < 0) (Nat.toDigits 10 n.natAbs) = .ok (int n) := by
  have hlength : (Nat.toDigits 10 n.natAbs).length ≤ maxDigits :=
    (Nat.length_toDigits_le_iff (by decide) (by decide)).mpr h
  rw [wholeNumber, if_neg (Nat.not_lt.mpr hlength)]
  simp only [decide_eq_true_eq, Text.decimalNumber_toDigits]
  split
  · rw [Int.ofNat_natAbs_of_nonpos (by omega), Int.neg_neg]
  · rw [Int.natAbs_of_nonneg (by omega)]

/-- The tokens of the value are read as the value, whatever is open around it. -/
def ReadsBack (v : Json) : Prop :=
  ∀ stack, v.spelled.foldlM step (.value stack) = Except.ok (ε := ReadError) (accept v stack)

/-- No value is spelled with a closing bracket in front. -/
theorem spelled_head (v : Json) : ∃ t ts, v.spelled = t :: ts ∧ t ≠ .closeList := by
  cases v with
  | null | bool | text | list | object => exact ⟨_, _, rfl, nofun⟩
  | number n => cases n <;> exact ⟨_, _, rfl, nofun⟩

theorem spelledItems_head (v : Json) (vs : List Json) :
    ∃ t ts, spelledItems (v :: vs) = t :: ts ∧ t ≠ .closeList := by
  obtain ⟨t, ts, heq, ht⟩ := v.spelled_head
  cases vs with
  | nil => exact ⟨t, ts, heq, ht⟩
  | cons u us => exact ⟨t, _, congrArg (· ++ .comma :: spelledItems (u :: us)) heq, ht⟩

theorem step_firstItem {t : Token} (h : t ≠ .closeList) :
    step (.firstItem stack) t = begin (.list [] :: stack) t := by
  cases t with
  | closeList => exact absurd rfl h
  | openList | openObject | closeObject | comma | colon | text | word | whole | bad => rfl

theorem foldlM_items {items : List Json} (h : ∀ u ∈ items, ReadsBack u) (hv : ReadsBack v) (before : List Json) :
    (spelledItems (v :: items)).foldlM step (.value (.list before :: stack)) =
      Except.ok (ε := ReadError) (.afterItem ((v :: items).reverse ++ before) stack) := by
  induction items generalizing v before with
  | nil => exact hv _
  | cons u us ih =>
    have hus := ih (fun w hw => h w (List.mem_cons_of_mem _ hw)) (h u List.mem_cons_self) (v :: before)
    change (v.spelled ++ .comma :: spelledItems (u :: us)).foldlM step _ = _
    rw [List.foldlM_append, hv]
    change (spelledItems (u :: us)).foldlM step (.value (.list (v :: before) :: stack)) = _
    rw [hus]
    simp

theorem foldlM_field (k : String) (hv : ReadsBack v) (before : List (String × Json)) :
    (.text k :: .colon :: v.spelled).foldlM step (.nextKey before stack) =
      Except.ok (ε := ReadError) (.afterField ((k, v) :: before) stack) := hv (.object before k :: stack)

theorem foldlM_fields {fields : List (String × Json)} (h : ∀ f ∈ fields, ReadsBack f.2) {f : String × Json}
    (hf : ReadsBack f.2) (before : List (String × Json)) :
    (spelledFields (f :: fields)).foldlM step (.nextKey before stack) =
      Except.ok (ε := ReadError) (.afterField ((f :: fields).reverse ++ before) stack) := by
  induction fields generalizing f before with
  | nil => exact foldlM_field f.1 hf before
  | cons g gs ih =>
    have hgs := ih (fun e he => h e (List.mem_cons_of_mem _ he)) (h g List.mem_cons_self) (f :: before)
    change (.text f.1 :: .colon :: f.2.spelled ++ .comma :: spelledFields (g :: gs)).foldlM step _ = _
    rw [List.foldlM_append, foldlM_field f.1 hf]
    change (spelledFields (g :: gs)).foldlM step (.nextKey (f :: before) stack) = _
    rw [hgs]
    simp

theorem readsBack_list {items : List Json} (h : ∀ v ∈ items, ReadsBack v) : ReadsBack (.list items) := by
  intro stack
  cases items with
  | nil => rfl
  | cons v vs =>
    obtain ⟨hv, hvs⟩ := List.forall_mem_cons.mp h
    have hfirst : (spelledItems (v :: vs)).foldlM step (.firstItem stack) =
        (spelledItems (v :: vs)).foldlM step (.value (.list [] :: stack)) := by
      obtain ⟨t, ts, heq, ht⟩ := spelledItems_head v vs
      rw [heq, List.foldlM_cons, List.foldlM_cons, step_firstItem ht]
      rfl
    change (spelledItems (v :: vs) ++ [Token.closeList]).foldlM step (.firstItem stack) = _
    rw [List.foldlM_append, hfirst, foldlM_items hvs hv [], List.append_nil]
    change Except.ok (accept (.list (v :: vs).reverse.reverse) stack) = _
    rw [List.reverse_reverse]

theorem readsBack_object {fields : List (String × Json)} (h : ∀ f ∈ fields, ReadsBack f.2) :
    ReadsBack (.object fields) := by
  intro stack
  cases fields with
  | nil => rfl
  | cons f fs =>
    obtain ⟨hf, hfs⟩ := List.forall_mem_cons.mp h
    have hfirst : (spelledFields (f :: fs)).foldlM step (.firstKey stack) =
        (spelledFields (f :: fs)).foldlM step (.nextKey [] stack) := by
      cases fs <;> rfl
    change (spelledFields (f :: fs) ++ [Token.closeObject]).foldlM step (.firstKey stack) = _
    rw [List.foldlM_append, hfirst, foldlM_fields hfs hf [], List.append_nil]
    change Except.ok (accept (.object (f :: fs).reverse.reverse) stack) = _
    rw [List.reverse_reverse]

theorem readsBack_of_legible (h : Legible v) : ReadsBack v := by
  unfold Legible at h
  induction h with
  | null | bool | text => exact fun _ => rfl
  | number x hx =>
    obtain ⟨n, rfl, hn⟩ := hx
    intro stack
    change (Except.map (accept · stack) (wholeNumber (n < 0) (Nat.toDigits 10 n.natAbs)) >>= pure) = _
    rw [wholeNumber_numeral hn]
    rfl
  | list items _ ih => exact readsBack_list ih
  | object fields _ ih => exact readsBack_object ih

/-- A text over several lines is read as the value that was written. -/
theorem read_manyLines (h : Legible v) : read v.manyLines = .ok v := by
  rw [read, tokens_manyLines h, readsBack_of_legible h]
  rfl

/-! ### Numbers that are read -/

/-- The numbers of the value have short whole parts. -/
def Readable (v : Json) : Prop := v.AllNumbers Number.ShortWhole

/-- What the token brings into a value is readable. -/
def Token.Readable : Token → Prop
  | .word v => v.Readable
  | .whole _ digits => ∀ c ∈ digits, Text.isPlainDigit c = true
  | _ => True

/-- What the list or object holds so far is readable. -/
def Frame.Readable : Frame → Prop
  | .list items => ∀ v ∈ items, v.Readable
  | .object fields _ => ∀ f ∈ fields, f.2.Readable

/-- What has been read so far is readable. -/
def State.Readable : State → Prop
  | .value stack | .firstItem stack | .firstKey stack => ∀ f ∈ stack, f.Readable
  | .afterItem items stack => (Frame.list items).Readable ∧ ∀ f ∈ stack, f.Readable
  | .nextKey fields stack | .colon fields _ stack | .afterField fields stack =>
    (Frame.object fields "").Readable ∧ ∀ f ∈ stack, f.Readable
  | .finished v => v.Readable

theorem readable_wholeNumber {negative : Bool} {digits : List Char}
    (hdigits : ∀ c ∈ digits, Text.isPlainDigit c = true) (h : wholeNumber negative digits = .ok v) : v.Readable := by
  unfold wholeNumber at h
  split at h
  · cases h
  · rename_i hlength
    have hshort := short_of_digits hdigits (Nat.not_lt.mp hlength)
    rw [← Except.ok.inj h]
    split
    · exact .number _ (Number.shortWhole_whole hshort.neg)
    · exact .number _ (Number.shortWhole_whole hshort)

theorem State.Readable.accept (hv : v.Readable) (h : ∀ f ∈ stack, f.Readable) :
    (State.accept v stack).Readable := by
  cases stack with
  | nil => exact hv
  | cons f stack =>
    obtain ⟨hf, hstack⟩ := List.forall_mem_cons.mp h
    cases f with
    | list items => exact ⟨List.forall_mem_cons.mpr ⟨hv, hf⟩, hstack⟩
    | object fields key => exact ⟨List.forall_mem_cons.mpr ⟨hv, hf⟩, hstack⟩

theorem State.Readable.begin {t : Token} {s : State} (ht : t.Readable) (h : ∀ f ∈ stack, f.Readable)
    (hs : State.begin stack t = .ok s) : s.Readable := by
  cases t with
  | openList | openObject => exact Except.ok.inj hs ▸ h
  | text s => exact Except.ok.inj hs ▸ .accept (.text s) h
  | word v => exact Except.ok.inj hs ▸ .accept ht h
  | whole negative digits =>
    rw [State.begin] at hs
    cases hnumber : wholeNumber negative digits with
    | error e =>
      rw [hnumber] at hs
      cases hs
    | ok v =>
      rw [hnumber] at hs
      exact Except.ok.inj hs ▸ .accept (readable_wholeNumber ht hnumber) h
  | closeList | closeObject | comma | colon | bad => cases hs

theorem State.Readable.step {t : Token} {s s' : State} (h : s.Readable) (ht : t.Readable)
    (hs : s.step t = .ok s') : s'.Readable := by
  unfold State.step at hs
  split at hs
  case h_1 => exact .begin ht h hs
  case h_2 => exact Except.ok.inj hs ▸ .accept (.list [] nofun) h
  case h_3 stack _ =>
    have hstack : ∀ f ∈ Frame.list [] :: stack, f.Readable := List.forall_mem_cons.mpr ⟨List.forall_mem_nil _, h⟩
    exact .begin ht hstack hs
  case h_4 => exact Except.ok.inj hs ▸ List.forall_mem_cons.mpr h
  case h_5 items stack =>
    exact Except.ok.inj hs ▸ .accept (.list _ fun v hv => h.1 v (List.mem_reverse.mp hv)) h.2
  case h_6 => exact Except.ok.inj hs ▸ .accept (.object [] nofun) h
  case h_7 => exact Except.ok.inj hs ▸ ⟨List.forall_mem_nil _, h⟩
  case h_8 => exact Except.ok.inj hs ▸ h
  case h_9 => exact Except.ok.inj hs ▸ List.forall_mem_cons.mpr h
  case h_10 => exact Except.ok.inj hs ▸ h
  case h_11 fields stack =>
    exact Except.ok.inj hs ▸ .accept (.object _ fun f hf => h.1 f (List.mem_reverse.mp hf)) h.2
  case h_12 => cases hs

theorem State.Readable.foldlM {ts : List Token} (hts : ∀ t ∈ ts, t.Readable) {s s' : State} (h : s.Readable)
    (hs : ts.foldlM State.step s = .ok s') : s'.Readable := by
  induction ts generalizing s with
  | nil => exact Except.ok.inj hs ▸ h
  | cons t ts ih =>
    obtain ⟨ht, hts⟩ := List.forall_mem_cons.mp hts
    rw [List.foldlM_cons] at hs
    cases hstep : s.step t with
    | error e =>
      rw [hstep] at hs
      cases hs
    | ok s₁ =>
      rw [hstep] at hs
      exact ih hts (h.step ht hstep) hs

theorem takeWhole_digits (cs : List Char) : ∀ c ∈ (takeWhole cs).1, Text.isPlainDigit c = true := by
  unfold takeWhole
  split
  · rintro c hc
    rw [List.mem_singleton.mp hc]
    rfl
  · exact List.all_eq_true.mp List.all_takeWhile

theorem readable_takeNumber (negative : Bool) (cs : List Char) : (takeNumber negative cs).1.Readable := by
  unfold takeNumber
  dsimp only
  split
  · trivial
  · split
    · exact takeWhole_digits cs
    · split
      · rename_i hreal
        exact .number _ (NumberText.shortWhole_decimal hreal)
      · trivial

theorem readable_words : ∀ w ∈ wordValues, w.2.Readable := by
  have hreal (x : Binary64) (hx : ∀ n, x.truncate ≠ .ok n) : Readable (.number (.real x)) :=
    .number _ fun n hn => absurd hn (hx n)
  simp only [wordValues, List.forall_mem_cons]
  refine ⟨.null, .bool true, .bool false, hreal .nan ?_, hreal _ ?_, hreal _ ?_, List.forall_mem_nil _⟩
  all_goals rintro n ⟨⟩

theorem readable_takeWord {cs rest : List Char} {t : Token} (h : takeWord? cs = some (t, rest)) : t.Readable := by
  obtain ⟨w, hw, hword⟩ := List.exists_of_findSome?_eq_some h
  obtain ⟨rest', -, heq⟩ := Option.map_eq_some_iff.mp hword
  rw [← (Prod.mk.inj heq).1]
  exact readable_words w hw

theorem readable_takeToken (c : Char) (cs : List Char) : (takeToken c cs).1.Readable := by
  unfold takeToken
  split
  case h_7 => split <;> trivial
  case h_8 =>
    split
    · rename_i found hfound
      exact readable_takeWord hfound
    · split <;> exact readable_takeNumber _ _
  all_goals trivial

theorem readable_tokens (fuel : Nat) (cs : List Char) : ∀ t ∈ tokensUpTo fuel cs, t.Readable := by
  induction fuel generalizing cs with
  | zero => exact List.forall_mem_nil _
  | succ fuel ih =>
    rw [tokensUpTo]
    split
    · exact List.forall_mem_nil _
    · exact List.forall_mem_cons.mpr ⟨readable_takeToken _ _, ih _⟩

/-- Whatever is read has numbers with short whole parts. -/
theorem readable_of_read {text : String} (h : read text = .ok v) : v.Readable := by
  unfold read at h
  cases hstate : (tokens text.toList).foldlM State.step (.value []) with
  | error e =>
    rw [hstate] at h
    cases h
  | ok s =>
    have hs : s.Readable := State.Readable.foldlM (readable_tokens _ _) (s := .value []) nofun hstate
    rw [hstate] at h
    cases s with
    | finished v' => exact Except.ok.inj h ▸ hs
    | _ => cases h

end GridWalk.Json
