import GridWalk.Proofs.Text.Pieces
import GridWalk.Script
import Mathlib.Data.List.Basic

/-! The commands of a script's text. A line end between two texts keeps their commands apart, and a semicolon separates
    commands just as a line end does, where it does not stand in a comment. -/

namespace GridWalk.Script
open Text

variable {line : List Char} {text : String}

/-- The line is a comment. -/
def IsComment (line : List Char) : Prop := (trim line).head? = some '#'

/-- A command that begins like a comment is a line of its own. -/
def CommentsApart (text : String) : Prop :=
  ∀ line ∈ lines text.toList, ';' ∈ line → ∀ command ∈ pieces (· = ';') line, ¬IsComment command

/-- The text with line ends in place of semicolons. -/
def onLines (text : String) : String := text.map fun c => if c = ';' then '\n' else c

theorem separates_of_isBlank (c : Char) (h : isBlank c = true) : decide (c = ';') = false := by
  rw [decide_eq_false_iff_not]
  rintro rfl
  cases h

/-! ### Lines -/

theorem lineCommands_of_not_comment (h : ¬IsComment line) :
    lineCommands line = ((pieces (· = ';') line).map commandOf).filter (!·.isEmpty) := by
  have hcommandOf : commandOf = List.map String.ofList ∘ words := rfl
  rw [IsComment] at h
  rw [lineCommands, if_neg h, hcommandOf, ← List.map_map, ← List.map_map, map_words_pieces_trim separates_of_isBlank]

/-- The first command of a comment is a comment. -/
theorem IsComment.exists_command (h : IsComment line) : ∃ command ∈ pieces (· = ';') line, IsComment command := by
  obtain ⟨front, tail, rfl, hfront⟩ := (head?_trim_eq_some_iff rfl).mp h
  obtain ⟨first, rest, htail⟩ := exists_pieces (· = ';') tail
  have hmark : pieces (· = ';') ('#' :: tail) = ('#' :: first) :: rest := pieces_cons_of_neg rfl htail
  refine ⟨front ++ '#' :: first, ?_, (head?_trim_eq_some_iff rfl).mpr ⟨front, first, rfl, hfront⟩⟩
  rw [pieces_append_left (fun c hc => separates_of_isBlank c (hfront c hc)) hmark]
  exact List.mem_cons_self

theorem pieces_of_notMem (h : ';' ∉ line) : pieces (· = ';') line = [line] := by
  refine pieces_of_forall fun c hc => ?_
  rw [decide_eq_false_iff_not]
  rintro rfl
  exact h hc

/-- A line has the commands of the lines that it makes when it is cut at its semicolons. -/
theorem lineCommands_eq_flatMap (h : ';' ∈ line → ∀ command ∈ pieces (· = ';') line, ¬IsComment command) :
    lineCommands line = (pieces (· = ';') line).flatMap lineCommands := by
  by_cases hmem : ';' ∈ line
  · have hline : ¬IsComment line := fun hcomment => by
      obtain ⟨command, hcommand, hcomment⟩ := hcomment.exists_command
      exact h hmem command hcommand hcomment
    rw [lineCommands_of_not_comment hline, List.map_eq_flatMap, List.filter_flatMap]
    refine List.flatMap_congr fun command hcommand => ?_
    have hsingle : ';' ∉ command := fun hin => by simpa using of_mem_pieces hcommand ';' hin
    rw [lineCommands_of_not_comment (h hmem command hcommand), pieces_of_notMem hsingle, List.map_singleton]
  · rw [pieces_of_notMem hmem, List.flatMap_singleton]

/-! ### Texts -/

theorem commands_eq_flatMap (text : String) : commands text = (pieces endsLine text.toList).flatMap lineCommands :=
  flatMap_lines rfl text.toList

/-- The commands of two texts with a line end between them, which may well end a line of the first text together with a
    return at its end. -/
theorem commands_append (s t : String) : commands (s ++ "\n" ++ t) = commands s ++ commands t := by
  have htext : (s ++ "\n" ++ t).toList = s.toList ++ '\n' :: t.toList := by simp
  rw [commands_eq_flatMap, htext, pieces_append_cons rfl, List.flatMap_append, ← commands_eq_flatMap,
    ← commands_eq_flatMap]

theorem mem_lines_of_mem_pieces {cs : List Char} (h : line ∈ pieces endsLine cs) (hne : line ≠ []) : line ∈ lines cs := by
  have hmem := flatMap_lines (f := fun line => if line = [] then [] else [line]) rfl cs
  have : line ∈ (lines cs).flatMap fun line => if line = [] then [] else [line] := by
    rw [hmem]
    exact List.mem_flatMap.mpr ⟨line, h, by simp [hne]⟩
  obtain ⟨line', hline', hin⟩ := List.mem_flatMap.mp this
  split at hin
  · cases hin
  · rwa [List.mem_singleton.mp hin]

/-- Where comments are lines of their own, commands may stand on lines of their own as well. -/
theorem commands_onLines (h : CommentsApart text) : commands (onLines text) = commands text := by
  let f : Char → Char := fun c => if c = ';' then '\n' else c
  have hends : (fun c => endsLine (f c)) = fun c => endsLine c || decide (c = ';') := by
    funext c
    by_cases hc : c = ';'
    · subst hc
      rfl
    · simp [f, hc]
  have hkept : ∀ line ∈ pieces endsLine text.toList, ∀ command ∈ pieces (· = ';') line, command.map f = command := by
    intro line _ command hcommand
    refine (List.map_congr_left fun c hc => ?_).trans command.map_id
    have hne : c ≠ ';' := by simpa using of_mem_pieces hcommand c hc
    simp [f, hne]
  rw [commands_eq_flatMap, commands_eq_flatMap, onLines, String.toList_map, pieces_map, hends, pieces_or,
    List.flatMap_map, List.flatMap_assoc]
  refine List.flatMap_congr fun line hline => ?_
  rw [List.flatMap_congr fun command hcommand => congrArg lineCommands (hkept line hline command hcommand)]
  refine (lineCommands_eq_flatMap fun hmem => h line (mem_lines_of_mem_pieces hline ?_) hmem).symm
  rintro rfl
  cases hmem

end GridWalk.Script
