import GridWalk.Program.Unrolled

/-! What unrolled programs come to. The moves, the unit steps and the displacement of a program are told from its terms,
    each loop body counted once for each repetition, and they are those of the moves that the program makes. The order
    of these moves does not matter for where they lead. -/

namespace GridWalk

namespace Move

theorem destination_cons (start : Position) (m : Move) (ms : List Move) :
    destination start (m :: ms) = destination (start + m.displacement) ms := rfl

theorem destination_append (start : Position) (a b : List Move) :
    destination start (a ++ b) = destination (destination start a) b := List.foldl_append

/-- Moves lead from a place to what lies at their displacement from there. -/
theorem destination_eq_add_path (start : Position) (moves : List Move) :
    destination start moves = start + path moves := by
  induction moves generalizing start with
  | nil => exact (Position.add_origin start).symm
  | cons m ms ih =>
    have hpath : path (m :: ms) = m.displacement + path ms := by
      rw [path, destination_cons, ih, Position.origin_add]
    rw [destination_cons, ih, hpath, Position.add_assoc]

theorem path_append (a b : List Move) : path (a ++ b) = path a + path b := by
  rw [path, destination_append, destination_eq_add_path]
  rfl

/-- A repeated run of moves leads as often as far. -/
theorem path_replicate (n : Nat) (body : List Move) :
    path (List.replicate n body).flatten = (path body).scale n := by
  induction n with
  | zero => exact (Position.scale_zero _).symm
  | succ n ih =>
    rw [List.replicate_succ, List.flatten_cons, path_append, ih, Int.natCast_succ, Int.add_comm,
      Position.scale_add, Position.scale_one]

/-- Moves lead to the same place in every order. -/
theorem destination_perm {a b : List Move} (h : a.Perm b) (start : Position) :
    destination start a = destination start b :=
  h.foldl_eq' (fun m _ n _ p => Position.add_right_comm p m.displacement n.displacement) start

theorem unitSteps_append (a b : List Move) : unitSteps (a ++ b) = unitSteps a + unitSteps b := by
  induction a with
  | nil => simp
  | cons m ms ih => simp [ih, Nat.add_assoc]

theorem unitSteps_replicate (n : Nat) (body : List Move) :
    unitSteps (List.replicate n body).flatten = n * unitSteps body := by
  induction n with
  | zero => simp
  | succ n ih => rw [List.replicate_succ, List.flatten_cons, unitSteps_append, ih, Nat.succ_mul, Nat.add_comm]

end Move

namespace Term

theorem length_unroll (t : Term) : t.unroll.length = t.repetitions * t.moves.length := by
  cases t with
  | move m => rfl
  | loop body times => simp [unroll, repetitions, moves]

theorem unitSteps_unroll (t : Term) : Move.unitSteps t.unroll = t.repetitions * Move.unitSteps t.moves := by
  cases t with
  | move m => exact (Nat.one_mul _).symm
  | loop body times => exact Move.unitSteps_replicate times.toNat body

theorem path_unroll (t : Term) : Move.path t.unroll = (Move.path t.moves).scale t.repetitions := by
  cases t with
  | move m => exact (Position.scale_one _).symm
  | loop body times => exact Move.path_replicate times.toNat body

end Term

namespace Program

theorem length_unroll (p : Program) : p.unroll.length = p.moveCount := by
  induction p with
  | nil => rfl
  | cons t ts ih =>
    rw [unroll, List.flatMap_cons, List.length_append, Term.length_unroll, moveCount]
    exact congrArg _ ih

theorem unitSteps_unroll (p : Program) : Move.unitSteps p.unroll = p.unitSteps := by
  induction p with
  | nil => rfl
  | cons t ts ih =>
    rw [unroll, List.flatMap_cons, Move.unitSteps_append, Term.unitSteps_unroll, unitSteps]
    exact congrArg _ ih

theorem foldl_path (q : Position) (p : Program) :
    p.foldl (fun q t => q + (Move.path t.moves).scale t.repetitions) q = q + path p := by
  induction p generalizing q with
  | nil => exact (Position.add_origin q).symm
  | cons t ts ih =>
    have hpath : path (t :: ts) = (Move.path t.moves).scale t.repetitions + path ts := by
      rw [← ih, path, List.foldl_cons, Position.origin_add]
    rw [List.foldl_cons, ih, hpath, Position.add_assoc]

theorem path_cons (t : Term) (ts : Program) :
    path (t :: ts) = (Move.path t.moves).scale t.repetitions + path ts := by
  rw [path, List.foldl_cons, foldl_path, Position.origin_add]

theorem path_unroll (p : Program) : Move.path p.unroll = p.path := by
  induction p with
  | nil => rfl
  | cons t ts ih =>
    rw [unroll, List.flatMap_cons, Move.path_append, Term.path_unroll, path_cons]
    exact congrArg _ ih

/-- A program leads where its moves lead when they are made one after the other. -/
theorem destination_unroll (start : Position) (p : Program) :
    Move.destination start p.unroll = p.destination start := by
  rw [Move.destination_eq_add_path, path_unroll, destination]

/-- A program makes as many moves and unit steps, and leads as far, as its terms tell with each loop body counted once
    for each repetition. Where moves lead does not depend on their order, and moves lead on from where others led. -/
theorem unroll_told_by_terms (p : Program) (start : Position) :
    p.unroll.length = p.moveCount ∧ Move.unitSteps p.unroll = p.unitSteps ∧
      Move.destination start p.unroll = p.destination start ∧
      (∀ a b : List Move, a.Perm b → Move.destination start a = Move.destination start b) ∧
      ∀ a b : List Move, Move.destination start (a ++ b) = Move.destination (Move.destination start a) b :=
  ⟨length_unroll p, unitSteps_unroll p, destination_unroll start p, fun _ _ h => Move.destination_perm h start,
    Move.destination_append start⟩

/-- A move and a loop of two moves. -/
def staircase : Program :=
  [.move ⟨.right, 3, Nat.succ_pos 2⟩, .loop [⟨.up, 1, Nat.one_pos⟩, ⟨.right, 2, Nat.two_pos⟩] 4,
    .loop [⟨.left, 1, Nat.one_pos⟩] 0]

theorem staircase_told_by_terms : staircase.unroll.length = 9 ∧ Move.unitSteps staircase.unroll = 15 ∧
    Move.destination ⟨2, 6⟩ staircase.unroll = ⟨13, 2⟩ ∧ staircase.unroll.reverse.Perm staircase.unroll ∧
    Move.destination ⟨2, 6⟩ staircase.unroll.reverse = Move.destination ⟨2, 6⟩ staircase.unroll := by
  obtain ⟨hlength, hsteps, hplace, horder, -⟩ := unroll_told_by_terms staircase ⟨2, 6⟩
  exact ⟨hlength, hsteps, hplace, List.reverse_perm _, horder _ _ (List.reverse_perm _)⟩

end Program
end GridWalk
