import GridWalk.Direction
import GridWalk.Text.Quoted

/-! # Programs

A program is a list of terms: a move of one or more steps in one direction, or a loop that repeats a
run of moves. A loop holds moves only, never another loop. -/

namespace GridWalk

/-- A number of steps in one direction, at least one. -/
structure Move where
  direction : Direction
  steps : Nat
  steps_pos : 0 < steps := by omega
deriving DecidableEq, Repr

/-- Why a direction or a move is refused. -/
inductive MoveError
  /-- No direction has this text as its letter or its value. -/
  | unknownDirection (text : String)
  /-- The text is not exactly one command letter. -/
  | invalidSymbol (text : String)
  | stepsNotPositive (steps : Int)
deriving DecidableEq, Repr

/-- The text of an error. -/
def MoveError.message : MoveError → String
  | .unknownDirection text => s!"Unknown direction: {text}"
  | .invalidSymbol text => s!"{Text.quoted text} is not a valid Direction"
  | .stepsNotPositive steps => s!"Move steps must be positive, got {steps}"

/-- The direction of a command letter, in capitals or not. -/
def Direction.ofSymbol (text : String) : Except MoveError Direction :=
  match Direction.ofSymbolText? text with
  | some d => .ok d
  | none => .error (.unknownDirection text)

namespace Move

/-- The move of a direction and a number of steps, which must be positive. -/
def make (direction : Direction) (steps : Int) : Except MoveError Move :=
  if h : 1 ≤ steps then .ok ⟨direction, steps.toNat, by omega⟩ else .error (.stepsNotPositive steps)

/-- The move of a command letter, which must be a capital, and a number of steps. -/
def ofSymbol (text : String) (steps : Int) : Except MoveError Move :=
  match Direction.ofText? text with
  | some d => make d steps
  | none => .error (.invalidSymbol text)

/-- A move takes a direction and never the text of one, whatever the number of steps. -/
def ofText (text : String) (_steps : Int) : Except MoveError Move :=
  .error (.unknownDirection text)

/-- Where the move leads, seen from where it starts. -/
def displacement (m : Move) : Position := m.direction.step.scale m.steps

/-- The move as it is written: its letter and the number of its steps. -/
def text (m : Move) : String := s!"{m.direction.symbol}{m.steps}"

/-- The number of unit steps of a list of moves. -/
def unitSteps (moves : List Move) : Nat := moves.foldr (·.steps + ·) 0

@[simp] theorem unitSteps_nil : unitSteps [] = 0 := rfl

@[simp] theorem unitSteps_cons (m : Move) (ms : List Move) : unitSteps (m :: ms) = m.steps + unitSteps ms := rfl

end Move

/-- A term of a program: a move or a loop over moves. -/
inductive Term
  | move (m : Move)
  /-- The body repeated; a count below one repeats nothing. -/
  | loop (body : List Move) (times : Int)
deriving DecidableEq, Repr

namespace Term

/-- The moves written in the term, a loop's body once. -/
def moves : Term → List Move
  | move m => [m]
  | loop body _ => body

/-- Whether a term is a loop. -/
def isLoop : Term → Bool
  | move _ => false
  | loop _ _ => true

/-- The term as it is written. -/
def text : Term → String
  | move m => m.text
  | loop body times => "(" ++ ",".intercalate (body.map Move.text) ++ ")X" ++ toString times

end Term

/-- The terms of a command text in their order. -/
abbrev Program := List Term

namespace Program

/-- The moves written in the program in textual order, each loop body once. -/
def writtenMoves (p : Program) : List Move := p.flatMap Term.moves

/-- The program as a command text, its terms separated by commas. -/
def text (p : Program) : String := ",".intercalate (p.map Term.text)

end Program
end GridWalk
