import GridWalk.Level.Basic
import GridWalk.Program
import GridWalk.Walk.Event

/-! # Steppers

A stepper walks moves over a level one unit step at a time and shows each event. An event has to be
acknowledged before the next one is shown; only the acknowledgement of a step evaluates the cell that
was entered. While a walk is in progress at most one event is queued or shown. -/

namespace GridWalk.Walk

/-- Why a stepper refuses a call. -/
inductive StepperError
  | busy
  | notWalking
  | unacknowledged (kind : EventKind)
  | nothingShown
deriving DecidableEq, Repr

/-- The text of an error. -/
def StepperError.message : StepperError → String
  | .busy => "A run is already in progress on this level"
  | .notWalking => "No run in progress"
  | .unacknowledged kind => s!"Event {kind.text} has not been acknowledged"
  | .nothingShown => "No event to acknowledge"

/-- The first unit step of moves and the steps that remain. -/
def takeStep : List Move → Option (Direction × List Move)
  | [] => none
  | m :: ms =>
    if h : m.steps = 1 then some (m.direction, ms)
    else
      have := m.steps_pos
      some (m.direction, ⟨m.direction, m.steps - 1, by omega⟩ :: ms)

/-- A walk that goes on by calls: its state, the event queued or shown, and the moves that remain. -/
inductive Stepper
  /-- No walk was ever begun. -/
  | untouched
  /-- The last walk is over. -/
  | resting (state : State)
  | ready (state : State) (rest : List Move)
  /-- An event other than a step waits to be shown. -/
  | queued (state : State) (event : Event) (rest : List Move) (notMoved : event.kind ≠ .moved)
  | shown (state : State) (event : Event) (rest : List Move)

namespace Stepper

/-- The state of the walk in progress or of the last one. -/
def state? : Stepper → Option State
  | untouched => none
  | resting s | ready s _ | queued s _ _ _ | shown s _ _ => some s

/-- Whether a walk is in progress. -/
def inFlight : Stepper → Bool
  | untouched | resting _ => false
  | _ => true

/-- The events queued or shown. -/
def pendingEvents : Stepper → List Event
  | queued _ e _ _ | shown _ e _ => [e]
  | _ => []

/-- The moves that remain to be walked. -/
def remaining : Stepper → List Move
  | untouched | resting _ => []
  | ready _ rest | queued _ _ rest _ | shown _ _ rest => rest

/-- Begins a walk from the start of a level. -/
def start (level : Level) (moves : List Move) (w : Stepper) : Except StepperError Stepper :=
  if w.inFlight then .error .busy else .ok (.ready { position := level.start } moves)

/-- The event that ends a walk with an outcome, and the state it leaves. -/
def finish (s : State) (outcome : Outcome) (kind : EventKind) : State × Event :=
  let ended := { s with outcome }
  (ended, ended.event kind outcome.failure?)

/-- Takes the next unit step, or ends the walk where none remains or the grid does. -/
def advance (level : Level) (s : State) (moves : List Move) : State × Event × List Move :=
  match takeStep moves with
  | none => (s, s.event .exhausted none, [])
  | some (direction, rest) =>
    let target := s.position + direction.step
    if level.contains target then
      let moved := { s with position := target, stepsTaken := s.stepsTaken + 1 }
      (moved, moved.event .moved none, rest)
    else
      let (ended, event) := finish s .outOfBounds .failed
      (ended, event, rest)

/-- Shows the next event. -/
def step (level : Level) : Stepper → Except StepperError (Event × Stepper)
  | untouched | resting _ => .error .notWalking
  | shown _ e _ => .error (.unacknowledged e.kind)
  | queued s e rest _ => .ok (e, .shown s e rest)
  | ready s moves =>
    let (s, e, rest) := advance level s moves
    .ok (e, .shown s e rest)

/-- A stepper with the event that ends a walk queued. -/
def ending (s : State) (outcome : Outcome) (kind : EventKind) (rest : List Move) (h : kind ≠ .moved) : Stepper :=
  .queued (finish s outcome kind).1 (finish s outcome kind).2 rest h

/-- Evaluates the cell that was entered. -/
def enter (level : Level) (s : State) (rest : List Move) : Stepper :=
  match level.terrain? s.position with
  | some .void => ending s .fellVoid .failed rest (by decide)
  | some .snake => ending s .bittenSnake .failed rest (by decide)
  | some .energy =>
    let charged := { s with energyCollected := s.energyCollected + 1, energized := true }
    .queued charged (charged.event .collectedEnergy none) rest (by simp [State.event])
  | some .door =>
    if s.energized then ending s .victory .victory rest (by decide)
    else ending s .needsEnergy .doorLocked rest (by decide)
  | some .safe | none => .ready s rest

/-- Acknowledges the event that is shown. -/
def acknowledge (level : Level) : Stepper → Except StepperError Stepper
  | shown s e rest =>
    .ok (if e.kind = .moved then enter level s rest else if e.isFinal then .resting s else .ready s rest)
  | _ => .error .nothingShown

/-- Breaks off the walk in progress. -/
def abort : Stepper → Stepper
  | untouched => .untouched
  | resting s | ready s _ | queued s _ _ _ | shown s _ _ => .resting s

/-- A bound on the events that are still to come. -/
def workLeft : Stepper → Nat
  | untouched | resting _ => 0
  | ready _ rest => 2 * Move.unitSteps rest + 1
  | queued _ _ rest _ => 2 * Move.unitSteps rest + 2
  | shown _ _ rest => 2 * Move.unitSteps rest + 2

end Stepper
end GridWalk.Walk
