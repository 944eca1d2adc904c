import GridWalk.Text.Printable

/-! # Quoted texts

A quoted text stands between apostrophes, or between double quotes when it holds an apostrophe and no
double quote. What does not show is written by an escape. -/

namespace GridWalk.Text

/-- The last `width` hexadecimal digits of a number. -/
def hexDigits : Nat → Nat → List Char
  | 0, _ => []
  | width + 1, n => hexDigits width (n / 16) ++ [Nat.digitChar (n % 16)]

/-- A character inside the given quotes. -/
def escaped (quote c : Char) : List Char :=
  if c = quote || c = '\\' then ['\\', c]
  else if c = '\t' then ['\\', 't']
  else if c = '\n' then ['\\', 'n']
  else if c = '\r' then ['\\', 'r']
  else if isPrintable c then [c]
  else if c.toNat < 256 then ['\\', 'x'] ++ hexDigits 2 c.toNat
  else if c.toNat < 65536 then ['\\', 'u'] ++ hexDigits 4 c.toNat
  else ['\\', 'U'] ++ hexDigits 8 c.toNat

/-- The quotes that a text calls for. -/
def quoteFor (cs : List Char) : Char := if cs.contains '\'' && !cs.contains '"' then '"' else '\''

/-- The characters of a text in quotes. -/
def quotedChars (cs : List Char) : List Char :=
  quoteFor cs :: cs.flatMap (escaped (quoteFor cs)) ++ [quoteFor cs]

/-- The text in quotes. -/
def quoted (text : String) : String := String.ofList (quotedChars text.toList)

/-- The text in quotes, cut after `limit` characters. -/
def quotedUpTo (limit : Nat) (text : String) : String := String.ofList ((quotedChars text.toList).take limit)

end GridWalk.Text
