import GridWalk.Number.Basic

/-! # JSON values

Values of the JSON data format. Numbers keep whether they were written as whole numbers, and an object
keeps its fields in the order of writing; of fields with the same key the last one counts. -/

namespace GridWalk

/-- A JSON value; the fields of an object stand in the order in which they are written. -/
inductive Json
  | null
  | bool (b : Bool)
  | number (n : Number)
  | text (s : String)
  | list (items : List Json)
  | object (fields : List (String × Json))
deriving Inhabited

namespace Json

/-- A whole number as a value. -/
def int (n : Int) : Json := .number (.whole n)

/-- The value of a key in an object. -/
def field? (key : String) : Json → Option Json
  | object fields => (fields.reverse.find? (·.1 == key)).map (·.2)
  | _ => none

/-- Whether a value counts as true: zero, the empty text, the empty list or object and null do not. -/
def isTruthy : Json → Bool
  | null => false
  | bool b => b
  | number n => !n.isZero
  | text s => !s.isEmpty
  | list items => !items.isEmpty
  | object fields => !fields.isEmpty

/-- The text that a value stands for, where one that does not count as true stands for the empty text. -/
def textOrEmpty? (v : Json) : Option String :=
  if v.isTruthy then (match v with | text s => some s | _ => none) else some ""

end Json
end GridWalk
