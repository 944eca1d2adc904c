/-! # Rules by level number

What the number of a level decides: which levels have loops, a guide path, a time limit, and which ask
for a repeated pattern that ends at the door. -/

namespace GridWalk.Level

/-- The side of a generated level. -/
def standardSize : Nat := 15

/-- The most energy cells of a generated level. -/
def maxEnergy : Int := 3

/-- Whether a level allows loops: from level ten on. -/
def allowsLoopsAt (number : Int) : Bool := 10 ≤ number

/-- Whether a generated level has a guide path: up to level five. -/
def hasGuideAt (number : Int) : Bool := number ≤ 5

/-- Whether a level asks for patterns; nothing is asked where there is no level. -/
def isAdvanced : Option Int → Bool
  | none => false
  | some number => 14 ≤ number && number ≤ 20

/-- The seconds that a generated level allows, if it sets a limit: a minute from level ten on, five
seconds less with each further level, and never less than ten. -/
def timeLimitAt (number : Int) : Option Int :=
  if number < 10 then none else some (max (60 - (number - 10) * 5) 10)

end GridWalk.Level
