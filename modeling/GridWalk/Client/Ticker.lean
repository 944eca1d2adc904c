import GridWalk.Number.Basic

/-! # Time in the client

Time is counted in milliseconds and moves on by ticks. -/

namespace GridWalk.Client

/-- The seconds that a number of milliseconds makes. -/
def secondsOf (milliseconds : Int) : Number := .real (.finite ((milliseconds : Rat) / 1000))

/-- The time in milliseconds, and the durations of the ticks to come, round and round. -/
structure Ticker where
  now : Int := 0
  deltas : List Int := []
  next : Nat := 0
deriving DecidableEq, Repr

namespace Ticker

/-- The duration of the next tick. -/
def delta (t : Ticker) : Int := (t.deltas[t.next % t.deltas.length]?).getD 0

/-- Lets the time of a tick go by. -/
def tick (t : Ticker) : Ticker := { t with now := t.now + t.delta, next := t.next + 1 }

end Ticker

end GridWalk.Client
