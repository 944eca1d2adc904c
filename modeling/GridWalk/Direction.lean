import GridWalk.Position
import GridWalk.Text.Case

/-! # Directions

The four directions of a step, each with its command letter and its name. -/

namespace GridWalk

/-- The four directions of a unit step. -/
inductive Direction
  | right
  | left
  | up
  | down
deriving DecidableEq, Repr, Inhabited

namespace Direction

/-- The directions in their order. -/
def all : List Direction := [right, left, up, down]

/-- The letter that commands the direction. -/
def symbol : Direction → Char
  | right => 'D'
  | left => 'I'
  | up => 'S'
  | down => 'B'

/-- The name of a direction. -/
def name : Direction → String
  | right => "RIGHT"
  | left => "LEFT"
  | up => "UP"
  | down => "DOWN"

/-- One step in the direction; rows are counted downwards. -/
def step : Direction → Position
  | right => ⟨1, 0⟩
  | left => ⟨-1, 0⟩
  | up => ⟨0, -1⟩
  | down => ⟨0, 1⟩

/-- The direction that a letter commands; small letters command none. -/
def ofSymbol? : Char → Option Direction
  | 'D' => some right
  | 'I' => some left
  | 'S' => some up
  | 'B' => some down
  | _ => none

/-- The direction whose letter is the whole text. -/
def ofText? (text : String) : Option Direction :=
  match text.toList with
  | [c] => ofSymbol? c
  | _ => none

/-- The direction whose letter is the whole text, in capitals or not. -/
def ofSymbolText? (text : String) : Option Direction :=
  match Text.upper text.toList with
  | [c] => ofSymbol? c
  | _ => none

@[simp] theorem ofSymbol?_symbol (d : Direction) : ofSymbol? d.symbol = some d := by
  cases d <;> rfl

theorem ofSymbol?_eq_some_iff {c : Char} {d : Direction} : ofSymbol? c = some d ↔ c = d.symbol := by
  refine ⟨fun h => ?_, fun h => h ▸ ofSymbol?_symbol d⟩
  unfold ofSymbol? at h
  split at h <;> cases h <;> rfl

end Direction
end GridWalk
