import GridWalk.Text.CaseTables
import GridWalk.Text.Classes

/-! # Letter case

Capital and small forms of whole texts. A character may have several characters as its capital form,
and the small form of a sigma depends on whether it ends a word. -/

namespace GridWalk.Text

/-- The character that a table of runs maps to. -/
def mapped? (runs : List CaseRun) (c : Char) : Option Char :=
  (runs.find? fun r => r.first ≤ c.toNat && c.toNat ≤ r.last && (c.toNat - r.first) % r.stride == 0).map
    fun r => Char.ofNat ((c.toNat : Int) + r.shift).toNat

/-- The capital form of a character. -/
def upperChar (c : Char) : List Char :=
  if c.toNat < 128 then [c.toUpper]
  else match capitalExpansions.find? (·.1 == c.toNat) with
    | some e => e.2.map Char.ofNat
    | none => [(mapped? capitalRuns c).getD c]

/-- The text in capitals. -/
def upper (cs : List Char) : List Char := cs.flatMap upperChar

/-- The small form of a character that is no sigma. -/
def lowerChar (c : Char) : List Char :=
  if c.toNat < 128 then [c.toLower]
  else if c = 'İ' then ['i', '\u0307']
  else [(mapped? smallRuns c).getD c]

/-- Whether the nearest character that letter case does not look through has letter case. -/
def meetsCased (cs : List Char) : Bool :=
  match cs.dropWhile (inRanges caseIgnorableRanges) with
  | [] => false
  | c :: _ => inRanges casedRanges c

/-- The small form of a text, given in reverse what stands before it. -/
def lowerAfter (before : List Char) : List Char → List Char
  | [] => []
  | c :: cs =>
    (if c = 'Σ' then [if meetsCased before && !meetsCased cs then 'ς' else 'σ'] else lowerChar c) ++
      lowerAfter (c :: before) cs

/-- The text in small letters. -/
def lower (cs : List Char) : List Char := lowerAfter [] cs

example : upper ['ß', 'ı', 'd'] = ['S', 'S', 'I', 'D'] ∧ lower ['O', 'Σ'] = ['o', 'ς'] := by decide +kernel

end GridWalk.Text
