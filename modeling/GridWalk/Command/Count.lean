import GridWalk.Text.Classes

/-! # Counts

The numbers in a command text: of steps and of repetitions. A count is read exactly up to six
significant digits; every longer one counts as one million. -/

namespace GridWalk.Command

/-- The most significant digits that a count is read by. -/
def maxCountDigits : Nat := 6

/-- What a longer count counts as. -/
def oversizedCount : Nat := Nat.pow 10 maxCountDigits

/-- The count that digits write. -/
def countOf (digits : List Char) : Nat :=
  let significant := digits.dropWhile (· == '0')
  if maxCountDigits < significant.length then oversizedCount else Text.decimalNumber significant

/-- The digits that a text begins with, and the rest. -/
def takeDigits (cs : List Char) : List Char × List Char :=
  (cs.takeWhile Text.isPlainDigit, cs.dropWhile Text.isPlainDigit)

theorem length_takeDigits_snd (cs : List Char) : (takeDigits cs).2.length ≤ cs.length :=
  (List.dropWhile_suffix _).length_le

end GridWalk.Command
