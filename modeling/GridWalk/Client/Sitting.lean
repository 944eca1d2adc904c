import GridWalk.Client.Playlist
import GridWalk.Client.Ticker
import GridWalk.Visit.Actions

/-! # Sittings

A sitting goes through the levels of a playlist. It keeps the visit to the level that was loaded last
and the time at which it was loaded or begun anew. -/

namespace GridWalk.Client

/-- A playlist with the visit to the level that was loaded last. -/
structure Sitting where
  playlist : Playlist
  seeding : Seeding
  visit : Option Visit := none
  /-- The time in milliseconds, and when the visit began. -/
  now : Int := 0
  begun : Int := 0

/-- Why something in a sitting fails. -/
inductive SittingError
  | load (error : LoadError)
  | visit (error : VisitError)
  | nothingLoaded
deriving DecidableEq, Repr

namespace Sitting

/-- The surroundings of a visit that is only timed: the elapsed milliseconds. -/
def timed : Surroundings Int where
  display _ elapsed := ([], elapsed)
  clock elapsed := (some (secondsOf elapsed), elapsed)
  keepsRecords _ := false
  record _ elapsed := (.ok (), elapsed)
  note _ elapsed := elapsed

/-- The milliseconds since the visit began. -/
def elapsed (s : Sitting) : Int := s.now - s.begun

/-- Goes on in the playlist without loading a level. -/
def advance (offset : Int) (s : Sitting) : Sitting := { s with playlist := s.playlist.advance offset }

/-- Loads the current level of the playlist. -/
def load (s : Sitting) : Except SittingError Level × Sitting :=
  match Level.load s.playlist.current s.seeding with
  | .error error => (.error (.load error), s)
  | .ok level => (.ok level, { s with seeding := s.seeding.next, visit := some { level }, begun := s.now })

/-- Does something on the visit. -/
def act {α : Type} (action : Act Int α) (s : Sitting) : Except SittingError α × Sitting :=
  match s.visit with
  | none => (.error .nothingLoaded, s)
  | some visit =>
    match action (visit, s.elapsed) with
    | (result, visit, _) => (result.mapError .visit, { s with visit := some visit })

/-- Begins the visit and its time anew. -/
def restart (s : Sitting) : Except SittingError Unit × Sitting :=
  match s.act (Visit.restart timed) with
  | (.ok _, s) => (.ok (), { s with begun := s.now })
  | (.error error, s) => (.error error, s)

/-- Submits a text without waiting for a display. -/
def submit (text : Option String) (s : Sitting) : Except SittingError Report × Sitting :=
  s.act (Visit.submit timed 0 text none)

end Sitting
end GridWalk.Client
