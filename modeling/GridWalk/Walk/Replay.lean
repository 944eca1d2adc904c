import GridWalk.Walk.Stepper

/-! # Replays

A replay is a walk that is asked for one event after the other and acknowledges each as it goes on.
Several replays may share one stepper: one that is begun while another walks is refused, and one that
fails or is closed after it was begun breaks off whatever walks. -/

namespace GridWalk.Walk

/-- A replay: whether it has begun its walk, and whether it is over. -/
inductive Replay
  | waiting (moves : List Move)
  /-- An event was given out and is not yet acknowledged. -/
  | suspended
  | finished
deriving DecidableEq, Repr

namespace Replay

/-- Gives out the next event if a walk is in progress. -/
def giveOut (level : Level) (w : Stepper) : Except StepperError (Option Event) × Replay × Stepper :=
  if w.inFlight then
    match w.step level with
    | .ok (e, w) => (.ok (some e), .suspended, w)
    | .error error => (.error error, .finished, w.abort)
  else (.ok none, .finished, w)

/-- Goes on to the next event; there is none once the replay is finished. -/
def next (level : Level) (r : Replay) (w : Stepper) : Except StepperError (Option Event) × Replay × Stepper :=
  match r with
  | waiting moves =>
    match w.start level moves with
    | .ok w => giveOut level w
    | .error error => (.error error, .finished, w)
  | suspended =>
    match w.acknowledge level with
    | .ok w => giveOut level w
    | .error error => (.error error, .finished, w.abort)
  | finished => (.ok none, .finished, w)

/-- Ends the replay. -/
def close (r : Replay) (w : Stepper) : Replay × Stepper :=
  match r with
  | suspended => (.finished, w.abort)
  | _ => (.finished, w)

end Replay

/-- A stepper and the replays that share it. -/
structure Stage where
  stepper : Stepper := .untouched
  replays : List Replay := []

/-- There is no replay of that number. -/
inductive StageError
  | stepper (error : StepperError)
  | noReplay
deriving DecidableEq, Repr

namespace Stage

/-- The place of a replay, counted from the end if the number is negative. -/
def index? (s : Stage) (number : Int) : Option Nat :=
  let i := if number < 0 then number + s.replays.length else number
  if 0 ≤ i ∧ i < s.replays.length then some i.toNat else none

/-- Adds a replay of moves that waits to be begun. -/
def addReplay (moves : List Move) (s : Stage) : Stage :=
  { s with replays := s.replays ++ [.waiting moves] }

/-- Asks a replay for its next event. -/
def next (level : Level) (number : Int) (s : Stage) : Except StageError (Option Event) × Stage :=
  match s.index? number with
  | none => (.error .noReplay, s)
  | some i =>
    let (result, replay, stepper) := ((s.replays[i]?).getD .finished).next level s.stepper
    (result.mapError .stepper, { stepper, replays := s.replays.set i replay })

/-- Closes a replay. -/
def close (number : Int) (s : Stage) : Except StageError Unit × Stage :=
  match s.index? number with
  | none => (.error .noReplay, s)
  | some i =>
    let (replay, stepper) := ((s.replays[i]?).getD .finished).close s.stepper
    (.ok (), { stepper, replays := s.replays.set i replay })

end Stage
end GridWalk.Walk
