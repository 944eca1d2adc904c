import GridWalk.Command.Reading
import Mathlib.Tactic.IntervalCases

/-! Spellings of a text. Letters may be small and blanks may stand anywhere; before a text is scanned this is all
    undone, where the text has the characters of commands only. -/

namespace GridWalk.Command
open Text

/-- The second text is the first with some letters made small and blanks put in, also within numbers. -/
inductive Respelled : List Char → List Char → Prop
  | nil : Respelled [] []
  | same (c : Char) {cs ds : List Char} (rest : Respelled cs ds) : Respelled (c :: cs) (c :: ds)
  | small (c : Char) {cs ds : List Char} (rest : Respelled cs ds) : Respelled (c :: cs) (c.toLower :: ds)
  | blank (b : Char) (h : isBlank b = true) {cs ds : List Char} (rest : Respelled cs ds) : Respelled cs (b :: ds)

/-- The characters of command texts. -/
def alphabet : List Char :=
  ['D', 'I', 'S', 'B', 'X', '(', ')', ',', '0', '1', '2', '3', '4', '5', '6', '7', '8', '9']

theorem symbol_mem_alphabet (d : Direction) : d.symbol ∈ alphabet := by
  cases d <;> decide

theorem digit_mem_alphabet {c : Char} (h : isPlainDigit c = true) : c ∈ alphabet := by
  rw [isPlainDigit, Bool.and_eq_true, decide_eq_true_eq, decide_eq_true_eq] at h
  have hlo : 48 ≤ c.toNat := h.1
  have hhi : c.toNat ≤ 57 := h.2
  rw [← Char.ofNat_toNat c]
  generalize c.toNat = n at hlo hhi ⊢
  interval_cases n <;> decide

/-- Characters of commands, also in small letters, are no blanks, and in capitals they are themselves. -/
theorem kept_of_mem_alphabet {c : Char} (h : c ∈ alphabet) : (isBlank c = false ∧ upperChar c = [c]) ∧
    isBlank c.toLower = false ∧ upperChar c.toLower = [c] := by
  have hall : (alphabet.all fun c => decide ((isBlank c = false ∧ upperChar c = [c]) ∧
      isBlank c.toLower = false ∧ upperChar c.toLower = [c])) = true := by decide
  exact of_decide_eq_true (List.all_eq_true.mp hall c h)

theorem upper_filter_cons {a c : Char} (hblank : isBlank a = false) (hupper : upperChar a = [c]) (ds : List Char) :
    upper ((a :: ds).filter (!isBlank ·)) = c :: upper (ds.filter (!isBlank ·)) := by
  rw [List.filter_cons_of_pos (by rw [hblank]; rfl), upper, List.flatMap_cons, hupper]
  rfl

/-- Every spelling of a command text is scanned as that text. -/
theorem Respelled.upper_filter {cs ds : List Char} (h : Respelled cs ds) (hcs : ∀ c ∈ cs, c ∈ alphabet) :
    upper (ds.filter (!isBlank ·)) = cs := by
  induction h with
  | nil => rfl
  | same c _ ih =>
    obtain ⟨⟨hblank, hupper⟩, -⟩ := kept_of_mem_alphabet (hcs c List.mem_cons_self)
    rw [upper_filter_cons hblank hupper, ih fun d hd => hcs d (List.mem_cons_of_mem c hd)]
  | small c _ ih =>
    obtain ⟨-, hblank, hupper⟩ := kept_of_mem_alphabet (hcs c List.mem_cons_self)
    rw [upper_filter_cons hblank hupper, ih fun d hd => hcs d (List.mem_cons_of_mem c hd)]
  | blank b hb _ ih =>
    rw [List.filter_cons_of_neg (by rw [hb]; decide)]
    exact ih hcs

theorem normalize_of_respelled {plain text : String} (h : Respelled plain.toList text.toList)
    (hplain : ∀ c ∈ plain.toList, c ∈ alphabet) : normalize text = plain.toList := h.upper_filter hplain

theorem Respelled.refl (cs : List Char) : Respelled cs cs := by
  induction cs with
  | nil => exact .nil
  | cons c cs ih => exact .same c ih

end GridWalk.Command
