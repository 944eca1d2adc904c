import GridWalk.Journal
import GridWalk.Level.Catalog
import GridWalk.Level.Generator
import GridWalk.Number.Reading

/-! # Loading levels

A level is loaded by the name of a built-in level, or generated by its number. A name that consists of
digits is a number. A given seed generates the same level each time; without one each load has draws of
its own. -/

namespace GridWalk

/-- What a level that does not load is reported with. -/
def LoadError.message : LoadError → String
  | .level error => error.message
  | .number error => error.message
  | .sizeTooSmall => "Grid size must be at least 3 to keep energy off the border."
  | .outOfDraws => "The draws gave no place for the energy cells."

/-- What levels are generated from: a seed, or without one draws that are new with each load. -/
structure Seeding where
  seed : Option Int := none
  /-- The draws of each load to come, as they are without a seed. -/
  fresh : Nat → Nat → Nat

/-- What levels are generated from once one was loaded. -/
def Seeding.next (s : Seeding) : Seeding := { s with fresh := fun load => s.fresh (load + 1) }

namespace Level

/-- The level of a number as it is generated. Where a draw does not fit it is drawn again, up to `bound` times. -/
def generatedWithin (bound : Nat) (number size : Int) (seeding : Seeding) : Except LoadError Level :=
  match seeding.seed with
  | some seed =>
    ((Generator.generateWithin bound (Random.Twister.source bound) size number).run (.ofSeed seed)).map (·.1)
  | none => ((Generator.generateWithin bound (Random.streaming (seeding.fresh 0)) size number).run 0).map (·.1)

/-- The level of a number, counted from one. -/
def numberedWithin (bound : Nat) (number : Int) (seeding : Seeding) : Except LoadError Level :=
  if number < 1 then .error (.level (.numberTooSmall number))
  else generatedWithin bound number standardSize seeding

/-- Whether a name is the number of a level. -/
def isNumberName (name : String) : Bool := Text.isDigits name.toList

/-- The level of a name or number in a text, where it is drawn again up to `bound` times. -/
def loadWithin (bound : Nat) (name : String) (seeding : Seeding) : Except LoadError Level :=
  if isNumberName name then ((readInt name).mapError .number).bind (numberedWithin bound · seeding)
  else (Catalog.level name).mapError .level

/-- The level of a name or number in a text. -/
def load (name : String) (seeding : Seeding) : Except LoadError Level :=
  loadWithin Generator.maxDraws name seeding

/-- The entry made when a level was generated. -/
def generatedNote (l : Level) : Journal.Entry where
  severity := .debug
  source := "level_generator"
  text :=
    let obstacles := (Generator.obstacleCount l.number).toOption.getD 0
    s!"Generated level {l.number}: {l.energy.length} energy, {obstacles} obstacles requested"

/-- The entries made when a level was loaded by a name or number. -/
def loadingNotes (name : String) (l : Level) : List Journal.Entry :=
  if isNumberName name then [generatedNote l] else []

/-- The line that announces a level. -/
def title (l : Level) : String := s!"Level {l.number} ({l.name})"

end Level
end GridWalk
