import GridWalk.Command.Reading
import GridWalk.Level.Rules

/-! # Judging command texts

A text is judged under options: it is accepted, or rejected for the first reason that applies, in a
fixed order. The pattern rules of advanced levels come first, then commas, faults, empty programs,
loops where there are none, and the range of steps. -/

namespace GridWalk.Command

/-- What a text is judged by. -/
structure Options where
  level : Option Int := none
  start : Option Coordinates := none
  door : Option Coordinates := none
  requireComma : Bool := true
  allowsLoops : Bool := true
deriving DecidableEq, Repr

/-- Whether the options are those of an advanced level. -/
def Options.isAdvanced (o : Options) : Bool := Level.isAdvanced o.level

/-- The fewest steps of an accepted move. -/
def minSteps : Nat := 1

/-- The most steps of an accepted move. -/
def maxSteps : Nat := 15

/-- The fewest repetitions of a loop on an advanced level. -/
def minRepetitions : Int := 2

/-- Loops may be nested this deep; a text with deeper ones is not judged. -/
def maxDepth : Nat := 480

/-- Why a text is rejected. -/
inductive Rejection
  | faulty (fault : Fault)
  | missingComma
  | noCommands
  | tooFewRepetitions
  | missesDoor
  | loopsDisabled
  | stepsOutOfRange (steps : Nat)
  /-- The text or the options cannot be judged at all. -/
  | unreadable
deriving DecidableEq, Repr

/-- What is said to the player about a rejection. -/
def Rejection.message : Rejection → String
  | .faulty fault => fault.message
  | .missingComma => "Comandos INCORRECTOS: separa cada instrucción con una coma (,)."
  | .noCommands => "Comandos INCORRECTOS"
  | .tooFewRepetitions => "Comando incorrecto: debe repetirse por lo menos 2 veces."
  | .missesDoor => "Comando incorrecto: el patrón del bucle debe terminar exactamente en el portal."
  | .loopsDisabled => "Comando incorrecto: los bucles no están disponibles en este nivel."
  | .stepsOutOfRange steps => s!"Número de pasos inválido: {steps}"
  | .unreadable => "Error al parsear comandos"

/-- Whether a term is a loop with too few repetitions. -/
def repeatsTooFew : Term → Bool
  | .move _ => false
  | .loop _ times => times < minRepetitions

/-- Whether a move has too few or too many steps. -/
def outOfRange (m : Move) : Bool := m.steps < minSteps || maxSteps < m.steps

/-- Why a program leads astray: from the start it does not end at the door. -/
def doorRejection? (start door : Coordinates) (p : Program) : Option Rejection :=
  match Position.ofCoordinates start with
  | .error _ => some .unreadable
  | .ok place => if (p.destination place).coordinates = door then none else some .missesDoor

/-- Why the pattern rules of an advanced level reject a program. -/
def Options.patternRejection? (o : Options) (p : Program) : Option Rejection :=
  if !o.isAdvanced then none
  else if p.any repeatsTooFew then some .tooFewRepetitions
  else match o.start, o.door with
    | some start, some door => doorRejection? start door p
    | _, _ => none

/-- Why the rules of every level reject what was read. -/
def Options.commonRejection? (o : Options) (r : Reading) : Option Rejection :=
  if o.requireComma && r.missingComma then some .missingComma
  else match r.fault with
    | some fault => some (.faulty fault)
    | none =>
      if r.terms.isEmpty then some .noCommands
      else if !o.allowsLoops && r.terms.any Term.isLoop then some .loopsDisabled
      else (r.terms.writtenMoves.find? outOfRange).map (.stepsOutOfRange ·.steps)

/-- Why a reading is rejected; an accepted one has no reason. -/
def Options.rejection? (o : Options) (r : Reading) : Option Rejection :=
  o.patternRejection? r.terms <|> o.commonRejection? r

/-- Why a text is rejected. -/
def Options.validate (o : Options) (text : String) : Option Rejection :=
  let r := read text
  if maxDepth < r.depth then some .unreadable else o.rejection? r

/-- Whether a text is accepted. -/
def Options.accepts (o : Options) (text : String) : Bool := (o.validate text).isNone

end GridWalk.Command
