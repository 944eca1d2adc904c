import GridWalk.Command.Rules
import GridWalk.Visit.Basic
import GridWalk.Walk.Run

/-! # Actions on a visit

A player submits command texts, leaves the level or restarts it, and the time is checked meanwhile. A
submission is judged, walked event by event, and ends with a report. Whatever happens during a walk,
none is left in progress. -/

namespace GridWalk

open Walk (Stepper Event Outcome)

/-- What a player is told when time is up, and when the level was completed before. -/
def timeoutMessage : String := "Tiempo límite sobrepasado. ¡Vuelve a intentarlo!"

/-- What is said to the player about a level that was completed before. -/
def completedMessage : String := "Este nivel ya fue completado."

/-- What came of a submission. -/
structure Report where
  valid : Bool
  message : String
  outcome : Option Outcome := none
  events : List Event := []
  commandsUsed : Nat := 0
  walk : Option Walk.State := none
  record : Option Record := none
deriving DecidableEq, Repr

/-- Whether a submission won. -/
def Report.success (r : Report) : Bool := r.outcome = some .victory

/-- The report of a submission that is not walked. -/
def Report.rejected (message : String) : Report := { valid := false, message }

namespace Visit

variable {σ : Type}

/-- What submissions are judged by. -/
def options (v : Visit) : Command.Options where
  level := some v.level.number
  start := some v.level.start.coordinates
  door := some v.level.door.coordinates
  requireComma := v.requireComma
  allowsLoops := v.level.allowsLoops

/-- Why a submission is rejected; what is no text cannot be read. -/
def rejection? (v : Visit) : Option String → Option Command.Rejection
  | none => some .unreadable
  | some text => v.options.validate text

/-- Whether the time limit is reached. -/
def isOverdue (v : Visit) (elapsed : Number) : Bool :=
  match v.level.timeLimit with
  | none => false
  | some limit => !elapsed.less limit

/-- The visit with no walk in progress. -/
def aborted (v : Visit) : Visit := { v with stepper := v.stepper.abort }

/-- The visit when time is up. -/
def overdue (v : Visit) : Visit := { v.aborted with timedOut := true, position := v.level.start }

/-- The visit begun anew. -/
def renewed (v : Visit) : Visit :=
  { v.aborted with
    position := v.level.start, timedOut := false, completed := false, lastWalk := none, lastCommands := 0 }

/-- The visit with a stepper whose walk is the last one submitted. -/
def walking (w : Stepper) (v : Visit) : Visit := { v with stepper := w, lastWalk := w.state? }

/-- An entry about visits. -/
def entry (severity : Journal.Severity) (text : String) : Journal.Entry where
  severity := severity
  source := "session"
  text := text

/-- The entry when time is up. -/
def overdueNotes (v : Visit) : List Journal.Entry :=
  match v.level.timeLimit with
  | none => []
  | some limit => [entry .info s!"Time limit of {limit.text}s reached on level {v.level.number}"]

/-- The entry when a walk is broken off from within. -/
def interruptedNotes (v : Visit) : List Journal.Entry :=
  match v.stepper.state? with
  | none => []
  | some s => [entry .warning s!"Run on level {v.level.number} interrupted at {s.position.text}"]

section Actions

variable (env : Surroundings σ)

/-- Breaks off the walk in progress. -/
def abort : Act σ Unit := do
  let v ← Act.visit
  Act.note env (v.stepper.abortNotes v.level)
  Act.modify aborted

/-- The elapsed seconds: those given, else those of the clock, else none. -/
def readElapsed (given : Option Number) : Act σ Number :=
  match given with
  | some elapsed => pure elapsed
  | none => do return (← Act.outside env.clock).getD (.whole 0)

/-- Whether time is up; if it is reached now, the walk in progress is broken off. -/
def checkTime (elapsed : Number) : Act σ Bool := do
  let v ← Act.visit
  if v.timedOut then return true
  else if v.isOverdue elapsed then
    Act.note env v.overdueNotes
    Act.note env (v.stepper.abortNotes v.level)
    Act.modify overdue
    return true
  else return false

/-- Makes a record where records are kept. -/
def keepRecord (success : Bool) (commandsUsed : Nat) (elapsed : Number) (energized : Bool) :
    Act σ (Option Record) := do
  if ← Act.outside fun w => (env.keepsRecords w, w) then
    let v ← Act.visit
    let timeTaken ← Act.lift .number elapsed.truncate
    let record : Record := { level := v.level.number, commandsUsed, timeTaken, energized, success }
    Act.lift .recorder (← Act.outside (env.record record))
    return some record
  else return none

/-- Ends the visit for now, with a record that it was left. -/
def leave (elapsed : Option Number) : Act σ (Option Record) := do
  let energized := ((← Act.visit).lastWalk.map (·.energized)).getD false
  abort env
  let elapsed ← readElapsed env elapsed
  keepRecord env false (← Act.visit).lastCommands elapsed energized

/-- Begins the visit anew. -/
def restart : Act σ Unit := do
  abort env
  Act.modify renewed

/-- Begins a walk. -/
def startWalk (moves : List Move) : Act σ Walk.State := do
  let v ← Act.visit
  let w ← Act.lift .stepper (v.stepper.start v.level moves)
  Act.note env (Stepper.startNotes v.level)
  Act.modify fun v => { v with stepper := w }
  return (w.state?).getD { position := v.level.start }

/-- Shows the next event of the walk in progress. -/
def stepWalk : Act σ Event := do
  let v ← Act.visit
  let (event, w) ← Act.lift .stepper (v.stepper.step v.level)
  Act.note env (v.stepper.stepNotes v.level)
  Act.modify fun v => { v with stepper := w }
  return event

/-- Acknowledges the event that is shown. -/
def acknowledge : Act σ Unit := do
  let v ← Act.visit
  let w ← Act.lift .stepper (v.stepper.acknowledge v.level)
  Act.note env (v.stepper.acknowledgeNotes v.level)
  Act.modify fun v => { v with stepper := w }

/-- Takes the walk in progress for the last one submitted. -/
def trackWalk : Act σ Unit := Act.modify fun v => v.walking v.stepper

/-- The state of the walk in progress, or the one before where there is none. -/
def walkState (before : Walk.State) : Act σ Walk.State := do
  return ((← Act.visit).stepper.state?).getD before

/-- Whether the clock, if there is one, shows that time is up. -/
def clockRunsOut : Act σ Bool := do
  match ← Act.outside env.clock with
  | none => return false
  | some now => checkTime env now

/-- What was seen of a walk. -/
structure Course where
  events : Array Event := #[]
  state : Walk.State
  timedOut : Bool := false

/-- Shows each event of the walk in progress, serves what the display asks, checks the clock and
acknowledges the event; `fuel` bounds the number of events. -/
def follow (serve : Request → Act σ Unit) : (fuel : Nat) → Course → Act σ Course
  | 0, course => pure course
  | fuel + 1, course => do
    if !(← Act.visit).stepper.inFlight then return course
    else
      let event ← stepWalk env
      trackWalk
      let course := { course with events := course.events.push event, state := ← walkState course.state }
      Act.each (← Act.outside (env.display event)) serve
      if ← clockRunsOut env then return { course with timedOut := true }
      else
        acknowledge env
        trackWalk
        follow serve fuel { course with state := ← walkState course.state }

/-- Does something and breaks off a walk that is in progress afterwards, also after a failure. -/
def breakingOff {α : Type} (act : Act σ α) : Act σ α := fun s =>
  match act s with
  | (result, v, w) =>
    if v.stepper.inFlight then
      let notes := v.interruptedNotes ++ v.stepper.abortNotes v.level
      (result, { v.aborted with position := v.level.start }, notes.foldl (fun w e => env.note e w) w)
    else (result, v, w)

/-- Ends a submission whose walk is over. -/
def conclude (commandsUsed : Nat) (elapsed : Option Number) (course : Course) : Act σ Report := do
  let report : Report := {
    valid := true
    message := course.state.outcome.message
    outcome := some course.state.outcome
    events := course.events.toList
    commandsUsed
    walk := some course.state }
  if course.state.outcome = .victory then
    Act.modify fun v => { v with completed := true, position := course.state.position }
    let elapsed ← readElapsed env elapsed
    let record ← keepRecord env true commandsUsed elapsed course.state.energized
    return { report with record }
  else if course.state.outcome.isHazard then
    Act.modify fun v => { v with position := v.level.start }
    return report
  else
    Act.modify fun v => { v with position := course.state.position }
    return report

/-- Walks a program that was accepted. -/
def walkProgram (serve : Request → Act σ Unit) (program : Program) (elapsed : Option Number) :
    Act σ Report := do
  let commandsUsed := program.length
  Act.modify fun v => { v with lastCommands := commandsUsed }
  Act.note env [entry .debug s!"Running {commandsUsed} commands, {program.unitSteps} unit steps"]
  let state ← startWalk env program.unroll
  trackWalk
  let fuel := (← Act.visit).stepper.workLeft
  let course ← breakingOff env (follow env serve fuel { state })
  if course.timedOut then
    return {
      valid := false
      message := timeoutMessage
      outcome := some course.state.outcome
      events := course.events.toList
      commandsUsed
      walk := some course.state }
  else conclude env commandsUsed elapsed course

/-- Judges a text and walks it if it is accepted, where requests of the display are served as given. -/
def submitServing (serve : Request → Act σ Unit) (text : Option String) (elapsed : Option Number) :
    Act σ Report := do
  if (← Act.visit).completed then return .rejected completedMessage
  else if ← checkTime env (← readElapsed env elapsed) then return .rejected timeoutMessage
  else
    let v ← Act.visit
    match v.rejection? text with
    | some rejection =>
      let shown := Text.quoted (text.getD "")
      Act.note env [entry .info s!"Rejected commands {shown}: {rejection.message}"]
      return .rejected rejection.message
    | none => walkProgram env serve (Command.read (text.getD "")).terms elapsed

/-- Serves a request; submissions may be nested as deep as `depth` says. -/
def serve : (depth : Nat) → Request → Act σ Unit
  | _, .fail => Act.fail .displayLost
  | 0, .submit _ _ => Act.fail .nestedTooDeep
  | depth + 1, .submit text elapsed => do discard (submitServing env (serve depth) text elapsed)
  | _, .checkTime elapsed => do discard (checkTime env elapsed)
  | _, .leave elapsed => do discard (leave env elapsed)
  | _, .restart => restart env

/-- Submits a text. -/
def submit (depth : Nat) (text : Option String) (elapsed : Option Number) : Act σ Report :=
  submitServing env (serve env depth) text elapsed

end Actions
end Visit
end GridWalk
