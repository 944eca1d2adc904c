import GridWalk.Position
import GridWalk.Text.Quoted

/-! # Events of a walk

A walk ends with an outcome. On the way it has a state, and each thing that happens is an event. -/

namespace GridWalk.Walk

/-- How a walk stands. -/
inductive Outcome
  | running
  | outOfBounds
  | fellVoid
  | bittenSnake
  | needsEnergy
  | victory
deriving DecidableEq, Repr, Inhabited

namespace Outcome

/-- The outcomes in their order. -/
def all : List Outcome := [running, outOfBounds, fellVoid, bittenSnake, needsEnergy, victory]

/-- The name of an outcome. -/
def text : Outcome → String
  | running => "running"
  | outOfBounds => "out_of_bounds"
  | fellVoid => "fell_void"
  | bittenSnake => "bitten_snake"
  | needsEnergy => "needs_energy"
  | victory => "victory"

/-- Whether the walk ended badly. -/
def isHazard : Outcome → Bool
  | running | victory => false
  | _ => true

/-- What a player is told of the outcome. -/
def message : Outcome → String
  | running => "Los comandos terminaron antes de llegar al portal. Sigue intentando."
  | outOfBounds => "¡Rebasaste los límites del mapa!"
  | fellVoid => "¡Caíste al vacío! Intenta de nuevo."
  | bittenSnake => "¡Te mordió una serpiente! Intenta de nuevo."
  | needsEnergy => "¡Necesitas energía para pasar por la puerta!"
  | victory => "¡Nivel completado!"

/-- The name of the hazard that failed the walk. -/
def failure? : Outcome → Option String
  | outOfBounds => some "out_of_bounds"
  | fellVoid => some "void"
  | bittenSnake => some "snake"
  | _ => none

end Outcome

/-- What happens in an event. -/
inductive EventKind
  | moved
  | collectedEnergy
  | failed
  | doorLocked
  | victory
  | exhausted
deriving DecidableEq, Repr, Inhabited

namespace EventKind

/-- The kinds of events in their order. -/
def all : List EventKind := [moved, collectedEnergy, failed, doorLocked, victory, exhausted]

/-- The name of a kind of event. -/
def text : EventKind → String
  | moved => "moved"
  | collectedEnergy => "collected_energy"
  | failed => "failed"
  | doorLocked => "door_locked"
  | victory => "victory"
  | exhausted => "exhausted"

/-- Whether the walk is over after the event. -/
def isFinal : EventKind → Bool
  | moved | collectedEnergy => false
  | _ => true

end EventKind

/-- A text that names no event kind or no outcome. -/
inductive NameError
  | kind (text : String)
  | outcome (text : String)
deriving DecidableEq, Repr

/-- The text of an error. -/
def NameError.message : NameError → String
  | .kind text => s!"{Text.quoted text} is not a valid EventKind"
  | .outcome text => s!"{Text.quoted text} is not a valid Outcome"

/-- The kind of events of a name. -/
def EventKind.ofText (text : String) : Except NameError EventKind :=
  match EventKind.all.find? (·.text == text) with
  | some kind => .ok kind
  | none => .error (.kind text)

/-- The outcome of a name. -/
def Outcome.ofText (text : String) : Except NameError Outcome :=
  match Outcome.all.find? (·.text == text) with
  | some outcome => .ok outcome
  | none => .error (.outcome text)

/-- What has come of a walk so far. -/
structure State where
  position : Position
  energized : Bool := false
  energyCollected : Nat := 0
  outcome : Outcome := .running
  stepsTaken : Nat := 0
deriving DecidableEq, Repr

/-- What a walk tells of itself: what happens where, and how the walk stands then. -/
structure Event where
  kind : EventKind
  position : Position
  outcome : Outcome := .running
  failure : Option String := none
  energyCollected : Int := 0
deriving DecidableEq, Repr

/-- An event of a kind in a state. -/
def State.event (s : State) (kind : EventKind) (failure : Option String) : Event where
  kind := kind
  position := s.position
  outcome := s.outcome
  failure := failure
  energyCollected := s.energyCollected

namespace Event

/-- Whether no event follows in the walk. -/
def isFinal (e : Event) : Bool := e.kind.isFinal

/-- The event as a line of text. -/
def text (e : Event) : String :=
  let place := e.position.tightText
  match e.kind with
  | .moved => s!"moved {place}"
  | .collectedEnergy => s!"energy {place} total={e.energyCollected}"
  | .failed => "failed " ++ e.failure.getD "None" ++ " " ++ place
  | .doorLocked => s!"door locked {place}"
  | .victory => s!"victory {place}"
  | .exhausted => s!"exhausted {place}"

/-- The lines printed for an event, where moves may be left out. -/
def printed (moves : Bool) (e : Event) : List String :=
  if e.kind = .moved && !moves then [] else [e.text]

end Event
end GridWalk.Walk
