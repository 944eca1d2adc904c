import GridWalk.Json.Basic
import GridWalk.Text.Quoted

/-! # Writing JSON

A value is written on one line, or over several lines with two blanks of indentation for each level. -/

namespace GridWalk.Json

/-- A character inside a JSON text. -/
def escaped (c : Char) : List Char :=
  if c = '"' || c = '\\' then ['\\', c]
  else if c = '\n' then ['\\', 'n']
  else if c.toNat < 32 then ['\\', 'u'] ++ Text.hexDigits 4 c.toNat
  else [c]

/-- A text in quotes. -/
def textChars (s : String) : List Char := '"' :: s.toList.flatMap escaped ++ ['"']

/-- A line end and the indentation of a level. -/
def lineStart (level : Nat) : List Char := '\n' :: List.replicate (2 * level) ' '

mutual

/-- The value on one line. -/
def compact : Json → List Char
  | null => "null".toList
  | bool b => (if b then "true" else "false").toList
  | number n => n.text.toList
  | text s => textChars s
  | list items => '[' :: compactItems items ++ [']']
  | object fields => '{' :: compactFields fields ++ ['}']

/-- The items of a list with commas between them. -/
def compactItems : List Json → List Char
  | [] => []
  | [v] => compact v
  | v :: vs => compact v ++ ',' :: compactItems vs

/-- The fields of an object with commas between them. -/
def compactFields : List (String × Json) → List Char
  | [] => []
  | [(k, v)] => textChars k ++ ':' :: compact v
  | (k, v) :: fs => textChars k ++ ':' :: compact v ++ ',' :: compactFields fs

end

mutual

/-- The value over several lines, as it stands at a level. -/
def indented (level : Nat) : Json → List Char
  | null => "null".toList
  | bool b => (if b then "true" else "false").toList
  | number n => n.text.toList
  | text s => textChars s
  | list [] => ['[', ']']
  | list (v :: vs) => '[' :: indentedItems (level + 1) (v :: vs) ++ lineStart level ++ [']']
  | object [] => ['{', '}']
  | object (f :: fs) => '{' :: indentedFields (level + 1) (f :: fs) ++ lineStart level ++ ['}']

/-- The items of a list, each on a line of its own. -/
def indentedItems (level : Nat) : List Json → List Char
  | [] => []
  | [v] => lineStart level ++ indented level v
  | v :: vs => lineStart level ++ indented level v ++ ',' :: indentedItems level vs

/-- The fields of an object, each on a line of its own. -/
def indentedFields (level : Nat) : List (String × Json) → List Char
  | [] => []
  | [(k, v)] => lineStart level ++ textChars k ++ ':' :: ' ' :: indented level v
  | (k, v) :: fs =>
    lineStart level ++ textChars k ++ ':' :: ' ' :: indented level v ++ ',' :: indentedFields level fs

end

/-- The value as a text on one line. -/
def oneLine (v : Json) : String := String.ofList v.compact

/-- The value as a text over several lines. -/
def manyLines (v : Json) : String := String.ofList (v.indented 0)

end GridWalk.Json
