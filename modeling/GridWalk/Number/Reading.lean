import GridWalk.Number.Basic
import GridWalk.Text.Classes
import GridWalk.Text.Pieces

/-! # Reading numbers

Numbers in texts: blanks around them are trimmed, decimal digits of every script count, and a single
underscore may stand between two digits. -/

namespace GridWalk

namespace NumberText

/-- The blanks that may surround a number; separators among the control characters may not. -/
def isMargin (c : Char) : Bool :=
  if c.toNat < 128 then c = ' ' || (9 ≤ c.toNat && c.toNat ≤ 13) else Text.isBlank c

/-- A decimal digit of any script by its plain form. -/
def plainDigit (c : Char) : Char :=
  match Text.decimalValue? c with
  | some d => Nat.digitChar d
  | none => c

/-- The text of a number in plain digits and without margins. -/
def plain (cs : List Char) : List Char := (Text.trimming isMargin cs).map plainDigit

/-- The text without its underscores, if each of them stands between two digits. -/
def withoutUnderscores? : List Char → Option (List Char)
  | [] => some []
  | '_' :: _ => none
  | c :: '_' :: d :: cs =>
    if Text.isPlainDigit c && Text.isPlainDigit d then (withoutUnderscores? (d :: cs)).map (c :: ·) else none
  | c :: cs => (withoutUnderscores? cs).map (c :: ·)

/-- The sign that a text begins with and what follows it. -/
def takeSign : List Char → Bool × List Char
  | '-' :: cs => (true, cs)
  | '+' :: cs => (false, cs)
  | cs => (false, cs)

/-- The run of digits and underscores that a text begins with. -/
def digitRun (cs : List Char) : List Char := cs.takeWhile fun c => Text.isPlainDigit c || c == '_'

end NumberText

open NumberText

/-- The whole number that a text writes. -/
def readInt (text : String) : Except NumberError Int :=
  let (negative, unsigned) := takeSign (plain text.toList)
  match withoutUnderscores? (digitRun unsigned) with
  | none | some [] => .error (.notWhole text)
  | some digits =>
    if maxDigits < digits.length then .error (.tooManyDigits digits.length)
    else if unsigned.length ≠ (digitRun unsigned).length then .error (.notWhole text)
    else .ok (if negative then -(Text.decimalNumber digits : Int) else Text.decimalNumber digits)

namespace NumberText

/-- The exponent after the digits of a decimal number. -/
def exponent? : List Char → Option Int
  | [] => some 0
  | c :: cs =>
    if c = 'e' || c = 'E' then
      let (negative, digits) := takeSign cs
      if digits.isEmpty || !digits.all Text.isPlainDigit then none
      else some (if negative then -(Text.decimalNumber digits : Int) else Text.decimalNumber digits)
    else none

/-- The number of an unsigned decimal text. -/
def decimal? (negative : Bool) (cs : List Char) : Option Binary64 :=
  let whole := cs.takeWhile Text.isPlainDigit
  let rest := cs.dropWhile Text.isPlainDigit
  let (fraction, rest) := match rest with
    | '.' :: r => (r.takeWhile Text.isPlainDigit, r.dropWhile Text.isPlainDigit)
    | r => ([], r)
  if whole.isEmpty && fraction.isEmpty then none
  else (exponent? rest).map fun e =>
    Binary64.ofDecimal negative (Text.decimalNumber (whole ++ fraction)) (e - fraction.length)

/-- The number of an unsigned text, which may name an infinity or what is no number. -/
def unsignedReal? (negative : Bool) (cs : List Char) : Option Binary64 :=
  let name := String.ofList (cs.map Char.toLower)
  if name = "inf" || name = "infinity" then some (.infinity negative)
  else if name = "nan" then some .nan
  else decimal? negative cs

end NumberText

/-- The floating-point number that a text writes. -/
def readReal (text : String) : Except NumberError Binary64 :=
  match withoutUnderscores? (plain text.toList) with
  | none => .error (.notReal text)
  | some cs =>
    let (negative, unsigned) := takeSign cs
    match unsignedReal? negative unsigned with
    | some x => .ok x
    | none => .error (.notReal text)

end GridWalk
