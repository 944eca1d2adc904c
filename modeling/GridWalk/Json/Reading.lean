import GridWalk.Json.Token

/-! # Reading JSON

Tokens are read one by one into a state: the lists and objects that are still open, from the inside
out, and what may come next. -/

namespace GridWalk.Json

/-- Why a text is no JSON value. -/
inductive ReadError
  | malformed
  | number (error : NumberError)
deriving DecidableEq, Repr

/-- The text of an error. -/
def ReadError.message : ReadError → String
  | .malformed => "not a JSON text"
  | .number error => error.message

/-- A list or object that is still open, with what it holds so far in reverse. -/
inductive Frame
  | list (items : List Json)
  | object (fields : List (String × Json)) (key : String)

/-- What has been read and what may come next. -/
inductive State
  | value (stack : List Frame)
  | firstItem (stack : List Frame)
  | afterItem (items : List Json) (stack : List Frame)
  | firstKey (stack : List Frame)
  | nextKey (fields : List (String × Json)) (stack : List Frame)
  | colon (fields : List (String × Json)) (key : String) (stack : List Frame)
  | afterField (fields : List (String × Json)) (stack : List Frame)
  | finished (v : Json)

/-- The state after a whole value. -/
def State.accept (v : Json) : List Frame → State
  | [] => .finished v
  | .list items :: stack => .afterItem (v :: items) stack
  | .object fields key :: stack => .afterField ((key, v) :: fields) stack

/-- A whole number by its digits. -/
def wholeNumber (negative : Bool) (digits : List Char) : Except ReadError Json :=
  if maxDigits < digits.length then .error (.number (.tooManyDigits digits.length))
  else
    let n : Int := Text.decimalNumber digits
    .ok (int (if negative then -n else n))

/-- Reads a token where a value must begin. -/
def State.begin (stack : List Frame) : Token → Except ReadError State
  | .openList => .ok (.firstItem stack)
  | .openObject => .ok (.firstKey stack)
  | .text s => .ok (accept (.text s) stack)
  | .word v => .ok (accept v stack)
  | .whole negative digits => (wholeNumber negative digits).map (accept · stack)
  | _ => .error .malformed

/-- Reads a token. -/
def State.step : State → Token → Except ReadError State
  | .value stack, t => begin stack t
  | .firstItem stack, .closeList => .ok (accept (.list []) stack)
  | .firstItem stack, t => begin (.list [] :: stack) t
  | .afterItem items stack, .comma => .ok (.value (.list items :: stack))
  | .afterItem items stack, .closeList => .ok (accept (.list items.reverse) stack)
  | .firstKey stack, .closeObject => .ok (accept (.object []) stack)
  | .firstKey stack, .text s => .ok (.colon [] s stack)
  | .nextKey fields stack, .text s => .ok (.colon fields s stack)
  | .colon fields key stack, .colon => .ok (.value (.object fields key :: stack))
  | .afterField fields stack, .comma => .ok (.nextKey fields stack)
  | .afterField fields stack, .closeObject => .ok (accept (.object fields.reverse) stack)
  | _, _ => .error .malformed

/-- Reads a JSON text. -/
def read (text : String) : Except ReadError Json := do
  match ← (tokens text.toList).foldlM State.step (.value []) with
  | .finished v => return v
  | _ => throw .malformed

end GridWalk.Json
