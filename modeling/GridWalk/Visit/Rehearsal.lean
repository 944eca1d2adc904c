import GridWalk.Desk

/-! # Rehearsals

A rehearsed visit goes on among planned surroundings: a display that prints events and asks for
something planned after some of them, and a clock that goes through a list of readings. -/

namespace GridWalk

/-- A desk at which displays and clocks go by a plan. -/
structure Rehearsal where
  desk : Desk := {}
  /-- What is asked after the event of a number, counted from zero; without a plan there is no display. -/
  plan : Option (List (Nat × Request)) := none
  /-- The number of events shown so far. -/
  shown : Nat := 0
  /-- The readings of the clock, of which the last one stays; without readings there is no clock. -/
  readings : Option (List Number) := none

namespace Rehearsal

/-- Shows an event, and asks what the plan has for it. -/
def display (event : Walk.Event) (r : Rehearsal) : List Request × Rehearsal :=
  match r.plan with
  | none => ([], r)
  | some plan =>
    let requests := (plan.filter (·.1 == r.shown)).map (·.2)
    (requests, { r with desk := r.desk.display event, shown := r.shown + 1 })

/-- Gives the readings one after the other, the last one again and again. -/
def clock (r : Rehearsal) : Option Number × Rehearsal :=
  match r.readings with
  | some (now :: next :: later) => (some now, { r with readings := some (next :: later) })
  | some [now] => (some now, r)
  | _ => (none, r)

/-- The rehearsal as the surroundings of a visit. -/
def surroundings : Surroundings Rehearsal where
  display := display
  clock := clock
  keepsRecords r := r.desk.recorder.isSome
  record record r :=
    let (result, desk) := r.desk.record record
    (result, { r with desk })
  note entry r := { r with desk := r.desk.note entry }

/-- How deep submissions can be nested: each one but the outermost uses up a planned request. -/
def depth (r : Rehearsal) : Nat := (r.plan.getD []).length

end Rehearsal
end GridWalk
