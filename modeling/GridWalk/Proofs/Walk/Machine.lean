import GridWalk.Proofs.Walk.Plain
import GridWalk.Walk.Stepper

/-! Machines. A machine walks with five registers that its operations read and write one after the other:
    the state of the walk, the unit steps that remain, a queue of events, the event that is shown, and
    whether a walk is in progress. Nothing ties the registers together, and what an operation has written
    stays when it fails later on. A machine is also asked for what it may not have: an event of an empty
    queue, the cell of a place off the grid, the state of a walk that was never begun. -/

namespace GridWalk.Walk

/-- A walk by its registers: its state, the unit steps to be made, the events queued and the one that is
    shown, and whether it is in progress. -/
structure Machine where
  state : Option State := none
  strides : List Direction := []
  queue : List Event := []
  pending : Option Event := none
  inFlight : Bool := false

namespace Machine

/-- Why an operation fails: it is refused, or it asks for what is not there. -/
inductive Fault
  | refused (error : StepperError)
  | emptyQueue
  | offGrid
  | noState
deriving DecidableEq, Repr

/-- An operation; a failed one leaves the registers as it had written them. -/
abbrev Op := EStateM Fault Machine

/-- The state of the walk, which has to be there. -/
def readState : Op State := do
  match (← get).state with
  | some s => return s
  | none => throw .noState

/-- Sets the state of the walk. -/
def writeState (s : State) : Op Unit := modify fun m => { m with state := some s }

/-- Queues an event of the state. -/
def emit (kind : EventKind) (failure : Option String) : Op Unit := do
  let s ← readState
  modify fun m => { m with queue := m.queue ++ [s.event kind failure] }

/-- Gives the walk its outcome and queues the event that tells so. -/
def finish (outcome : Outcome) (kind : EventKind) : Op Unit := do
  writeState { ← readState with outcome }
  emit kind outcome.failure?

/-- Takes a unit step out of those that remain. -/
def takeStride : Op (Option Direction) := do
  match (← get).strides with
  | [] => return none
  | d :: ds =>
    modify fun m => { m with strides := ds }
    return some d

/-- Takes an event out of the queue, which must not be empty. -/
def takeQueued : Op Event := do
  match (← get).queue with
  | [] => throw .emptyQueue
  | e :: es =>
    modify fun m => { m with queue := es }
    return e

section
variable (level : Level)

/-- Walks one unit step, or ends the walk where none remains or the grid does. -/
def advance : Op Unit := do
  let s ← readState
  match ← takeStride with
  | none => emit .exhausted none
  | some d =>
    let target := s.position + d.step
    if level.contains target then
      writeState { s with position := target, stepsTaken := s.stepsTaken + 1 }
      emit .moved none
    else finish .outOfBounds .failed

/-- Evaluates the cell that was entered. -/
def enterCell : Op Unit := do
  let s ← readState
  match level.terrain? s.position with
  | none => throw .offGrid
  | some .safe => return
  | some .void => finish .fellVoid .failed
  | some .snake => finish .bittenSnake .failed
  | some .energy =>
    writeState { s with energyCollected := s.energyCollected + 1, energized := true }
    emit .collectedEnergy none
  | some .door => if s.energized then finish .victory .victory else finish .needsEnergy .doorLocked

/-- Begins a walk, unless one is in progress. -/
def start (moves : List Move) : Op Unit := do
  if (← get).inFlight then throw (.refused .busy)
  set ({ state := some { position := level.start }, strides := Move.strides moves, inFlight := true } : Machine)

/-- Shows the next event, for which it may have to walk on first. -/
def step : Op Event := do
  let m ← get
  if !m.inFlight then throw (.refused .notWalking)
  if let some e := m.pending then throw (.refused (.unacknowledged e.kind))
  if m.queue.isEmpty then advance level
  let e ← takeQueued
  modify fun m => { m with pending := some e }
  return e

/-- Takes note that the event shown was seen. -/
def acknowledge : Op Unit := do
  match (← get).pending with
  | none => throw (.refused .nothingShown)
  | some e =>
    modify fun m => { m with pending := none }
    if e.kind = .moved then enterCell level
    else if e.isFinal then modify fun m => { m with inFlight := false }

end

/-- Breaks the walk off. -/
def abort : Op Unit := modify fun m => { m with queue := [], pending := none, inFlight := false }

end Machine

/-- What a stepper or a machine is called for. -/
inductive Call
  | start (moves : List Move)
  | step
  | acknowledge
  | abort
deriving DecidableEq, Repr

/-- Whether a call begins a walk. -/
def Call.isStart : Call → Bool
  | start _ => true
  | _ => false

section
variable (level : Level)

/-- Answers a call, where a step answers with the event that it shows. -/
def Machine.call : Call → Op (Option Event)
  | .start moves => do start level moves; return none
  | .step => some <$> step level
  | .acknowledge => do acknowledge level; return none
  | .abort => do abort; return none

/-- The registers after a call, whether it fails or not. -/
def Machine.afterCall (m : Machine) (c : Call) : Machine :=
  match m.call level c with
  | .ok _ m' | .error _ m' => m'

/-- What a stepper does when it is called, and the event that it shows. -/
def Stepper.call (w : Stepper) : Call → Except StepperError (Option Event × Stepper)
  | .start moves => (w.start level moves).map fun w => (none, w)
  | .step => (w.step level).map fun (e, w) => (some e, w)
  | .acknowledge => (w.acknowledge level).map fun w => (none, w)
  | .abort => .ok (none, w.abort)

/-- The stepper after a call; one that is refused leaves it as it was. -/
def Stepper.afterCall (w : Stepper) (c : Call) : Stepper :=
  match w.call level c with
  | .ok (_, w') => w'
  | .error _ => w

end

end GridWalk.Walk
