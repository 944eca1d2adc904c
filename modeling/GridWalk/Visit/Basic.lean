import GridWalk.Records.Recorder
import GridWalk.Walk.Notes

/-! # Visits

A visit is one player's attempts at one level. It goes on among surroundings: a display that shows
events and may ask something of the visit meanwhile, a clock, a recorder and a journal. An action on a
visit changes the visit and its surroundings, also when it fails. -/

namespace GridWalk

open Walk (Stepper Event Outcome)

/-- A visit to a level. -/
structure Visit where
  level : Level
  requireComma : Bool := true
  position : Position := level.start
  timedOut : Bool := false
  completed : Bool := false
  /-- What came of the last walk that a submission began. -/
  lastWalk : Option Walk.State := none
  /-- The number of terms of the last submission that was to be walked. -/
  lastCommands : Nat := 0
  stepper : Stepper := .untouched

/-- What a display may ask of a visit while it shows an event. -/
inductive Request
  /-- The display breaks down. -/
  | fail
  | submit (text : Option String) (elapsed : Option Number)
  | checkTime (elapsed : Number)
  | leave (elapsed : Option Number)
  | restart
deriving DecidableEq, Repr

/-- Why an action on a visit fails. -/
inductive VisitError
  | stepper (error : Walk.StepperError)
  | number (error : NumberError)
  | recorder (error : RecorderError)
  | displayLost
  /-- Submissions are made from within each other too deeply. -/
  | nestedTooDeep
deriving DecidableEq, Repr

/-- The text of a failure, which is that of its cause where there is one. -/
def VisitError.message : VisitError → String
  | .stepper error => error.message
  | .number error => error.message
  | .recorder error => error.message
  | .displayLost => "display lost"
  | .nestedTooDeep => "submissions are nested too deeply"

/-- What surrounds a visit, with a state in `σ`. -/
structure Surroundings (σ : Type) where
  /-- Shows an event; the display's requests are served before the walk goes on. -/
  display : Event → σ → List Request × σ
  /-- The seconds since the level was loaded, where there is a clock. -/
  clock : σ → Option Number × σ
  keepsRecords : σ → Bool
  record : Record → σ → Except RecorderError Unit × σ
  note : Journal.Entry → σ → σ

/-- An action on a visit and its surroundings. -/
def Act (σ α : Type) : Type := Visit × σ → Except VisitError α × Visit × σ

namespace Act

variable {σ α β : Type}

instance : Monad (Act σ) where
  pure a := fun s => (.ok a, s)
  bind act next := fun s =>
    match act s with
    | (.ok a, s) => next a s
    | (.error e, s) => (.error e, s)

/-- An action that fails and changes nothing. -/
def fail (e : VisitError) : Act σ α := fun s => (.error e, s)

/-- The visit as it is. -/
def visit : Act σ Visit := fun s => (.ok s.1, s)

/-- Changes the visit. -/
def modify (f : Visit → Visit) : Act σ Unit := fun s => (.ok (), f s.1, s.2)

/-- Does something with the surroundings. -/
def outside (f : σ → α × σ) : Act σ α := fun s => (.ok (f s.2).1, s.1, (f s.2).2)

/-- Puts entries into the journal. -/
def note (env : Surroundings σ) (entries : List Journal.Entry) : Act σ Unit :=
  outside fun w => ((), entries.foldl (fun w e => env.note e w) w)

/-- Acts on each item in order. -/
def each (items : List β) (act : β → Act σ Unit) : Act σ Unit :=
  match items with
  | [] => pure ()
  | item :: rest => do act item; each rest act

/-- The result of a computation that may fail. -/
def lift (convert : ε → VisitError) : Except ε α → Act σ α
  | .ok a => pure a
  | .error e => fail (convert e)

@[simp] theorem pure_apply (a : α) (s : Visit × σ) : (pure a : Act σ α) s = (.ok a, s) := rfl

theorem bind_apply (act : Act σ α) (next : α → Act σ β) (s : Visit × σ) :
    (act >>= next) s = match act s with
      | (.ok a, s) => next a s
      | (.error e, s) => (.error e, s) := rfl

end Act
end GridWalk
