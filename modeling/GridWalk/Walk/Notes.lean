import GridWalk.Journal
import GridWalk.Walk.Stepper

/-! # Entries about walks

What a stepper puts into the journal, told from the stepper before each operation. -/

namespace GridWalk.Walk.Stepper

/-- An entry about walks. -/
def entry (severity : Journal.Severity) (text : String) : Journal.Entry where
  severity := severity
  source := "simulation_engine"
  text := text

/-- The entries made when a walk begins. -/
def startNotes (level : Level) : List Journal.Entry :=
  [entry .info s!"Starting run on level {level.number} from {level.start.text}"]

/-- Nothing but a unit step is noted. -/
def stepNotes (level : Level) : Stepper → List Journal.Entry
  | ready s moves =>
    match takeStep moves with
    | none => []
    | some (direction, _) =>
      let target := s.position + direction.step
      if level.contains target then
        [entry .debug s!"Step {s.stepsTaken + 1}: moved {direction.name} to {target.text}"]
      else []
  | _ => []

/-- The end of a walk is noted. -/
def acknowledgeNotes (level : Level) : Stepper → List Journal.Entry
  | shown _ e _ =>
    if e.isFinal then
      [entry .info s!"Run on level {level.number} ended: {e.outcome.text} at {e.position.text}"]
    else []
  | _ => []

/-- The entries made when a walk is broken off. -/
def abortNotes (level : Level) (w : Stepper) : List Journal.Entry :=
  match w.inFlight, w.state? with
  | true, some s => [entry .info s!"Run on level {level.number} aborted at {s.position.text}"]
  | _, _ => []

end GridWalk.Walk.Stepper
