import GridWalk.Client.Playlist
import GridWalk.Client.Prompt
import GridWalk.Client.Scene
import GridWalk.Command.Reference
import GridWalk.Desk

/-! # The game in a window

The game shows a level with a status line and a prompt. In each frame the clock ticks, the time limit
is checked, the events of the window are handled, and the screen is drawn. It ends with the frame in
which the window is closed; the visit that the frame began with is left then. -/

namespace GridWalk.Client

/-- What happens at the window. -/
inductive WindowEvent
  | quit
  | press (key : KeyPress)
  | ignored
deriving DecidableEq, Repr

/-- What the game does to the window, in order. -/
inductive Trace
  | mode (width height : Int)
  | caption (text : String)
  | screen (status prompt : String) (corner : Position) (energized : Bool)
  | quit
deriving DecidableEq, Repr

/-- Typing a line: the prompt is cleared, the line typed, and entered. -/
def typingLine (line : String) : List WindowEvent :=
  .press { key := .escape } :: (line.toList.map fun c => .press (Prompt.typing c)) ++ [.press { key := .enter }]

/-- The status lines of the screens, each given once as long as it stays. -/
def statusLines (trace : List Trace) : List String :=
  (trace.filterMap fun | .screen status .. => some status | _ => none).eraseReps

/-- The height of the lines above the board. -/
def headerHeight : Int := 16 * 3 + 2 * 4

/-- The height of the line below the board. -/
def footerHeight : Int := 16 + 2 * 4

/-- The least width of the window. -/
def minWidth : Int := 640

/-- What surrounds the visits of a game. -/
structure Table where
  desk : Desk
  ticker : Ticker
  scene : Scene
  /-- When the visit began. -/
  begun : Int := 0
  prompt : Prompt := {}
  message : String := ""
  trace : Array Trace := #[]

namespace Table

/-- The milliseconds since the visit began. -/
def elapsed (w : Table) : Int := w.ticker.now - w.begun

/-- Notes what is done to the window. -/
def addTrace (entry : Trace) (w : Table) : Table := { w with trace := w.trace.push entry }

/-- The elapsed seconds as they are shown, a half second going to the even one. -/
def clockText (level : Level) (elapsed : Int) : String :=
  let seconds := nearestInt ((elapsed : Rat) / 1000)
  match level.timeLimit with
  | none => s!"{seconds}s"
  | some limit => if limit.isZero then s!"{seconds}s" else s!"{seconds}s / {limit.text}s"

/-- The screen as it is drawn with a scene at a time. -/
def screen (w : Table) (scene : Scene) (ticker : Ticker) : Trace :=
  let clock := clockText scene.level (ticker.now - w.begun)
  .screen s!"Level {scene.level.number}  {clock}  {w.message}" ("> " ++ String.ofList w.prompt.text)
    scene.figure.corner scene.figure.energized

/-- Draws the screen. -/
def draw (w : Table) : Table := w.addTrace (w.screen w.scene w.ticker)

/-- Animates an event on the screen. -/
def display (event : Walk.Event) (w : Table) : Table :=
  match w.scene.play (fun scene ticker w => w.addTrace (w.screen scene ticker)) standardStep event w.ticker w with
  | (scene, ticker, w) => { w with scene, ticker }

/-- What a visit of the game goes on among: the screen, the clock of the game and the desk. -/
def surroundings : Surroundings Table where
  display event w := ([], w.display event)
  clock w := (some (secondsOf w.elapsed), w)
  keepsRecords w := w.desk.recorder.isSome
  record r w :=
    let (result, desk) := w.desk.record r
    (result, { w with desk })
  note entry w := { w with desk := w.desk.note entry }

/-- Puts the player back on the screen. -/
def resetScene (w : Table) : Table := { w with scene := w.scene.reset none }

end Table

/-- Why a game breaks off. -/
inductive GameError
  | load (error : LoadError)
  | visit (error : VisitError)
deriving DecidableEq, Repr

/-- The text of a failure, which is that of its cause. -/
def GameError.message : GameError → String
  | .load error => error.message
  | .visit error => error.message

/-- A game between two events of the window. -/
structure Game where
  seeding : Seeding
  playlist : Playlist
  visit : Visit
  table : Table
  /-- The visit that the frame began with, once another level was loaded in the same frame. -/
  former : Option Visit := none
  running : Bool := true

namespace Game

/-- The window for a level. -/
def mode (level : Level) : Trace :=
  .mode (max (level.width * tile) minWidth) (headerHeight + level.height * tile + footerHeight)

/-- The entry when a level was loaded. -/
def loadedNote (name : String) : Journal.Entry where
  severity := .info
  source := "game"
  text := s!"Loaded level {name}"

/-- The table with a level that was loaded by a name. -/
def settle (name : String) (level : Level) (w : Table) : Table :=
  let desk := (w.desk.noteAll (level.loadingNotes name)).note (loadedNote name)
  { w with
    desk, scene := { level }, begun := w.ticker.now, message := ""
    trace := (w.trace.push (mode level)).push (.caption s!"Command Grid - level {level.number}") }

/-- Does something on the current visit. -/
def act {α : Type} (action : Act Table α) (g : Game) : Except GameError α × Game :=
  match action (g.visit, g.table) with
  | (result, visit, table) => (result.mapError .visit, { g with visit, table })

/-- Changes the table. -/
def onTable (f : Table → Table) (g : Game) : Game := { g with table := f g.table }

/-- Goes on from a step that did not fail. -/
def andThen {α : Type} (r : Except GameError α × Game) (next : α → Game → Except GameError Unit × Game) :
    Except GameError Unit × Game :=
  match r with
  | (.ok a, g) => next a g
  | (.error error, g) => (.error error, g)

/-- Goes to another level of the playlist. -/
def changeLevel (offset : Int) (g : Game) : Except GameError Unit × Game :=
  let g := { g with playlist := g.playlist.advance offset }
  match Level.load g.playlist.current g.seeding with
  | .error error => (.error (.load error), g)
  | .ok level =>
    (.ok (), { g with
      seeding := g.seeding.next
      visit := { level }
      former := some (g.former.getD g.visit)
      table := settle g.playlist.current level g.table })

/-- Begins the visit and its time anew. -/
def restart (g : Game) : Except GameError Unit × Game :=
  andThen (g.act (Visit.restart Table.surroundings)) fun _ g =>
    (.ok (), g.onTable fun w => { w.resetScene with begun := w.ticker.now })

/-- Puts the player back before a submission that will be walked. -/
def prepare (text : String) (g : Game) : Game :=
  if !g.visit.completed && (g.visit.rejection? (some text)).isNone then g.onTable Table.resetScene else g

/-- Shows what came of a submission. -/
def present (report : Report) (g : Game) : Game :=
  let g := g.onTable fun w => { w with message := report.message }
  if report.valid && g.visit.position = g.visit.level.start then g.onTable Table.resetScene else g

/-- Submits the text of the prompt. -/
def submit (g : Game) : Except GameError Unit × Game :=
  let text := String.ofList g.table.prompt.text
  andThen ((g.prepare text).act (Visit.submit Table.surroundings 0 (some text) none)) fun report g =>
    let g := g.present report
    if g.visit.timedOut then g.restart else (.ok (), g)

/-- Leaves the visit that the frame began with, unless it is completed, and closes the window. -/
def close (g : Game) : Except GameError Unit × Game :=
  let v := g.former.getD g.visit
  let left := if v.completed then (.ok none, v, g.table) else Visit.leave Table.surroundings none (v, g.table)
  match left with
  | (result, v, table) =>
    let g := if g.former.isSome then { g with former := some v, table } else { g with visit := v, table }
    andThen (result.mapError .visit, g) fun _ g => (.ok (), { g with running := false })

/-- Handles a key. -/
def press (k : KeyPress) (g : Game) : Except GameError Unit × Game :=
  match k.key with
  | .tab => g.changeLevel (if k.shift then -1 else 1)
  | .f5 => andThen g.restart fun _ g => (.ok (), g.onTable fun w => { w with message := "" })
  | _ =>
    if k.key = .h && g.table.prompt.text.isEmpty then
      (.ok (), g.onTable fun w => { w with desk := w.desk.print Command.reference })
    else
      let (submits, prompt) := g.table.prompt.press k
      let g := g.onTable fun w => { w with prompt }
      if submits then g.submit else (.ok (), g)

/-- Handles an event of the window. -/
def handle (event : WindowEvent) (g : Game) : Except GameError Unit × Game :=
  match event with
  | .quit => g.close
  | .press k => g.press k
  | .ignored => (.ok (), g)

/-- Handles events one after the other. -/
def handleAll : List WindowEvent → Game → Except GameError Unit × Game
  | [], g => (.ok (), g)
  | event :: rest, g => andThen (g.handle event) fun _ g => handleAll rest g

/-- Begins the visit anew if time is up. -/
def checkTime (g : Game) : Except GameError Unit × Game :=
  andThen (g.act (Visit.checkTime Table.surroundings (secondsOf g.table.elapsed)))
    fun timedOut g =>
      if timedOut then
        andThen g.restart fun _ g => (.ok (), g.onTable fun w => { w with message := timeoutMessage })
      else (.ok (), g)

/-- A frame with the events that happened before it. -/
def frame (events : List WindowEvent) (g : Game) : Except GameError Unit × Game :=
  let g := { g.onTable fun w => { w with ticker := w.ticker.tick } with former := none }
  andThen g.checkTime fun _ g =>
    andThen (handleAll events g) fun _ g => (.ok (), g.onTable Table.draw)

/-- Runs the frames until the window is closed, at the latest after the last of them. -/
def loop : List (List WindowEvent) → Game → Except GameError Unit × Game
  | [], g => andThen (g.frame [.quit]) fun _ g => (.ok (), g.onTable (·.addTrace .quit))
  | events :: rest, g =>
    andThen (g.frame events) fun _ g =>
      if g.running then loop rest g else (.ok (), g.onTable (·.addTrace .quit))

/-- What is left of a game: the desk and the trace. -/
structure Remains where
  desk : Desk
  trace : Array Trace

/-- Plays from the level of a name through frames of window events. -/
def execute (name : String) (seeding : Seeding) (desk : Desk) (deltas : List Int)
    (events : List (List WindowEvent)) : Except GameError Unit × Remains :=
  let playlist := Playlist.startingAt name
  match Level.load playlist.current seeding with
  | .error error => (.error (.load error), ⟨desk, #[]⟩)
  | .ok level =>
    let table : Table := { desk, ticker := { deltas }, scene := { level } }
    let game : Game :=
      { seeding := seeding.next, playlist, visit := { level }, table := settle playlist.current level table }
    match loop events game with
    | (result, g) => (result, ⟨g.table.desk, g.table.trace⟩)

end Game
end GridWalk.Client
