import GridWalk.Records.Record

/-! # Ledgers

A ledger is the list of records in the order they were made. It tells the furthest level completed, the
score and the best record of a level. -/

namespace GridWalk

/-- The records in the order in which they were made. -/
abbrev Ledger := List Record

namespace Ledger

/-- The points for completing a level for the first time. -/
def levelPoints : Nat := 10

/-- The most points there are. -/
def maxScore : Nat := 150

/-- The greatest level completed, zero if there is none. -/
def furthest (l : Ledger) : Int := ((l.filter (·.success)).map (·.level)).max?.getD 0

/-- The levels completed so far and the points for them. -/
structure Tally where
  completed : List Int := []
  points : Nat := 0

/-- Counts a record: a level completed for the first time adds points, up to the most there are. -/
def Tally.count (t : Tally) (r : Record) : Tally :=
  if r.success && !t.completed.contains r.level then
    { completed := r.level :: t.completed, points := min maxScore (t.points + levelPoints) }
  else t

/-- The points of a ledger. -/
def score (l : Ledger) : Nat := (l.foldl Tally.count {}).points

/-- The better of the best record so far and a further one of the level. -/
def better (level : Int) (best : Option Record) (r : Record) : Option Record :=
  if r.level ≠ level || !r.success then best
  else match best with
    | none => some r
    | some b => if r.beats b then some r else some b

/-- The best record of a level that was completed; of equal ones the earliest. -/
def best (level : Int) (l : Ledger) : Option Record := l.foldl (better level) none

end Ledger
end GridWalk
