import GridWalk.Json.Basic
import GridWalk.Number.Reading

/-! # JSON tokens

A JSON text is cut into brackets, separators and scalars. Beside the standard scalars there are `NaN`,
`Infinity` and `-Infinity`. A character that begins no token ends the list with a bad token. -/

namespace GridWalk.Json

/-- A token of a JSON text; what belongs to none is a token as well. -/
inductive Token
  | openList
  | closeList
  | openObject
  | closeObject
  | comma
  | colon
  | text (s : String)
  | word (v : Json)
  /-- A whole number by its digits, which may be too many. -/
  | whole (negative : Bool) (digits : List Char)
  | bad

/-- The code point that a run of hexadecimal digits names. -/
def hexNumber? (ds : List Char) : Option Nat :=
  ds.foldl (fun n c => n.bind fun n =>
    if c.isDigit then some (16 * n + (c.toNat - '0'.toNat))
    else if 'a' ≤ c && c ≤ 'f' then some (16 * n + (c.toNat - 'a'.toNat + 10))
    else if 'A' ≤ c && c ≤ 'F' then some (16 * n + (c.toNat - 'A'.toNat + 10))
    else none) (some 0)

/-- The character that a letter after a backslash stands for. -/
def shortEscape? : Char → Option Char
  | '"' => some '"'
  | '\\' => some '\\'
  | '/' => some '/'
  | 'b' => some '\x08'
  | 'f' => some '\x0c'
  | 'n' => some '\n'
  | 'r' => some '\r'
  | 't' => some '\t'
  | _ => none

/-- The code units of a text up to its closing quote, and what follows it. -/
def takeUnits : List Char → Option (List Nat × List Char)
  | [] => none
  | '"' :: cs => some ([], cs)
  | '\\' :: 'u' :: a :: b :: c :: d :: cs =>
    match hexNumber? [a, b, c, d] with
    | none => none
    | some unit => (takeUnits cs).map fun (units, rest) => (unit :: units, rest)
  | '\\' :: c :: cs =>
    match shortEscape? c with
    | none => none
    | some e => (takeUnits cs).map fun (units, rest) => (e.toNat :: units, rest)
  | c :: cs => if c.toNat < 32 then none else (takeUnits cs).map fun (units, rest) => (c.toNat :: units, rest)

/-- Code units as characters: two surrogates in a row make one character, a single one none. -/
def ofUnits : List Nat → List Char
  | [] => []
  | high :: low :: units =>
    if 0xD800 ≤ high && high < 0xDC00 && 0xDC00 ≤ low && low < 0xE000 then
      Char.ofNat (0x10000 + (high - 0xD800) * 0x400 + (low - 0xDC00)) :: ofUnits units
    else (if 0xD800 ≤ high && high < 0xE000 then '\uFFFD' else Char.ofNat high) :: ofUnits (low :: units)
  | [unit] => [if 0xD800 ≤ unit && unit < 0xE000 then '\uFFFD' else Char.ofNat unit]

/-- The whole part of a number: a zero, or digits that do not begin with one. -/
def takeWhole : List Char → List Char × List Char
  | '0' :: cs => (['0'], cs)
  | cs => (cs.takeWhile Text.isPlainDigit, cs.dropWhile Text.isPlainDigit)

/-- A point with digits after it, and the rest. -/
def takeFraction : List Char → List Char × List Char
  | '.' :: c :: cs =>
    if Text.isPlainDigit c then
      ('.' :: (c :: cs).takeWhile Text.isPlainDigit, (c :: cs).dropWhile Text.isPlainDigit)
    else ([], '.' :: c :: cs)
  | cs => ([], cs)

/-- An exponent mark, a sign or none, and digits, and the rest. -/
def takeExponent : List Char → List Char × List Char
  | [] => ([], [])
  | e :: cs =>
    let (sign, after) := match cs with
      | '-' :: r => (['-'], r)
      | '+' :: r => (['+'], r)
      | r => ([], r)
    let digits := after.takeWhile Text.isPlainDigit
    if (e = 'e' || e = 'E') && !digits.isEmpty then
      (e :: sign ++ digits, after.dropWhile Text.isPlainDigit)
    else ([], e :: cs)

/-- The number at the beginning of a text, its sign taken already. -/
def takeNumber (negative : Bool) (cs : List Char) : Token × List Char :=
  let (whole, r) := takeWhole cs
  let (fraction, r) := takeFraction r
  let (exponent, r) := takeExponent r
  if whole.isEmpty then (.bad, [])
  else if fraction.isEmpty && exponent.isEmpty then (.whole negative whole, r)
  else match NumberText.decimal? negative (whole ++ fraction ++ exponent) with
    | some x => (.word (.number (.real x)), r)
    | none => (.bad, [])

/-- What follows a word at the beginning of a text. -/
def afterWord? (word : String) (cs : List Char) : Option (List Char) :=
  if word.toList.isPrefixOf cs then some (cs.drop word.length) else none

/-- The words that stand for values. -/
def wordValues : List (String × Json) := [
  ("null", .null), ("true", .bool true), ("false", .bool false), ("NaN", .number (.real .nan)),
  ("Infinity", .number (.real (.infinity false))), ("-Infinity", .number (.real (.infinity true)))]

/-- The word at the beginning of a text. -/
def takeWord? (cs : List Char) : Option (Token × List Char) :=
  wordValues.findSome? fun w => (afterWord? w.1 cs).map fun rest => (.word w.2, rest)

/-- The token that a character and what follows it begin with. -/
def takeToken (c : Char) (cs : List Char) : Token × List Char :=
  match c with
  | '[' => (.openList, cs)
  | ']' => (.closeList, cs)
  | '{' => (.openObject, cs)
  | '}' => (.closeObject, cs)
  | ',' => (.comma, cs)
  | ':' => (.colon, cs)
  | '"' =>
    match takeUnits cs with
    | some (units, rest) => (.text (String.ofList (ofUnits units)), rest)
    | none => (.bad, [])
  | _ =>
    match takeWord? (c :: cs) with
    | some found => found
    | none => if c = '-' then takeNumber true cs else takeNumber false (c :: cs)

/-- Whether a character may stand between tokens. -/
def isSpace (c : Char) : Bool := c = ' ' || c = '\t' || c = '\n' || c = '\r'

/-- Cuts a text into tokens; `fuel` bounds their number. -/
def tokensUpTo : (fuel : Nat) → List Char → List Token
  | 0, _ => []
  | fuel + 1, cs =>
    match cs.dropWhile isSpace with
    | [] => []
    | c :: rest => (takeToken c rest).1 :: tokensUpTo fuel (takeToken c rest).2

/-- The tokens of a text, at most one for each character. -/
def tokens (cs : List Char) : List Token := tokensUpTo cs.length cs

end GridWalk.Json
