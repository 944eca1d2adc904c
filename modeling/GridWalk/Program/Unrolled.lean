import GridWalk.Program

/-! # Unrolled programs

Unrolling replaces each loop by its repetitions. How many moves and steps that makes and where it
leads is also told from the program itself, without unrolling it. -/

namespace GridWalk

namespace Move

/-- Where a list of moves leads from a place, whatever lies on the way. -/
def destination (start : Position) (moves : List Move) : Position :=
  moves.foldl (fun p m => p + m.displacement) start

/-- The displacement of a list of moves. -/
def path (moves : List Move) : Position := destination .origin moves

end Move

namespace Term

/-- The moves that a term stands for, one after the other. -/
def unroll : Term → List Move
  | move m => [m]
  | loop body times => (List.replicate times.toNat body).flatten

/-- How often the moves of the term are made. -/
def repetitions : Term → Nat
  | move _ => 1
  | loop _ times => times.toNat

end Term

namespace Program

/-- The moves that the program makes, in order. -/
def unroll (p : Program) : List Move := p.flatMap Term.unroll

/-- The number of moves that the program makes. -/
def moveCount : Program → Nat
  | [] => 0
  | t :: ts => t.repetitions * t.moves.length + moveCount ts

/-- The number of unit steps that the program makes. -/
def unitSteps : Program → Nat
  | [] => 0
  | t :: ts => t.repetitions * Move.unitSteps t.moves + unitSteps ts

/-- The displacement of the program. -/
def path (p : Program) : Position :=
  p.foldl (fun q t => q + (Move.path t.moves).scale t.repetitions) .origin

/-- Where the program leads from a place, whatever lies on the way. -/
def destination (start : Position) (p : Program) : Position := start + p.path

end Program
end GridWalk
