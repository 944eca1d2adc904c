import GridWalk.Client.Color
import GridWalk.Client.Ticker

/-! # Scenes

A scene is what the window shows of a level: its cells, the figure of the player and a flash. Events
are animated frame by frame; a frame is drawn, and then the clock ticks. -/

namespace GridWalk.Client

/-- The side of a tile in pixels. -/
def tile : Int := 32

/-- The figure of the player: its cell and the corner of its picture in pixels. -/
structure Figure where
  cell : Position
  corner : Position
  energized : Bool := false
deriving DecidableEq, Repr

namespace Figure

/-- The corner of a cell in pixels. -/
def cornerOf (p : Position) : Position := p.scale tile

/-- A figure on a cell. -/
def standingOn (p : Position) : Figure := { cell := p, corner := cornerOf p }

/-- Puts the figure on a cell. -/
def place (p : Position) (f : Figure) : Figure := { f with cell := p, corner := cornerOf p }

/-- The pixel a part `t` of the way between two columns or rows, in floating-point numbers. -/
def pixelBetween (start stop : Int) (t : Number) : Except NumberError Int :=
  match t with
  | .whole n => .ok ((start + (stop - start) * n) * tile)
  | .real x => do
    let way ← Binary64.ofInt (stop - start)
    let start ← Binary64.ofInt start
    ((start.add (way.mul x)).mul (.finite tile)).nearest

/-- Moves the picture a part of the way between two cells; the cell of the figure stays. -/
def between (start stop : Position) (t : Number) (f : Figure) : Except NumberError Figure := do
  return { f with corner := ⟨← pixelBetween start.x stop.x t, ← pixelBetween start.y stop.y t⟩ }

end Figure

/-- The milliseconds of a unit step. -/
def standardStep : Int := 300

/-- The milliseconds for which a cell flashes. -/
def flashTime : Int := 400

/-- What is drawn of a level: the player's figure, and a cell that flashes. -/
structure Scene where
  level : Level
  figure : Figure := .standingOn level.start
  flash : Option (Position × Color) := none
  /-- The duration of the last tick of the scene's own clock. -/
  lastTick : Int := 0

namespace Scene

/-- Puts the player back, without energy and without a flash. -/
def reset (position : Option Position) (s : Scene) : Scene :=
  { s with figure := .standingOn (position.getD s.level.start), flash := none }

section Animation

variable {τ : Type}

/-- Draws a frame with `draw`, then lets the clock tick. -/
def frame (draw : Scene → Ticker → τ → τ) (s : Scene) (t : Ticker) (w : τ) : Scene × Ticker × τ :=
  ({ s with lastTick := t.delta }, t.tick, draw s t w)

/-- The figure a part of the way of a step. -/
def stride (start stop : Position) (elapsed step : Int) (s : Scene) : Scene :=
  let t := Number.real (.ofRat ((elapsed : Rat) / step))
  { s with figure := ((s.figure.between start stop t).toOption).getD s.figure }

/-- The frames of a duration, with the scene prepared for each by the time elapsed; `fuel` bounds
their number. -/
def frames (draw : Scene → Ticker → τ → τ) (prepare : Int → Scene → Scene) (duration : Int) :
    (fuel : Nat) → (elapsed : Int) → Scene → Ticker → τ → Scene × Ticker × τ
  | 0, _, s, t, w => (s, t, w)
  | fuel + 1, elapsed, s, t, w =>
    if elapsed < duration then
      match frame draw (prepare elapsed s) t w with
      | (s, t, w) => frames draw prepare duration fuel (elapsed + s.lastTick) s t w
    else (s, t, w)

/-- More frames than a duration has, unless a whole round of ticks takes no time. -/
def frameBound (duration : Int) (t : Ticker) : Nat := (duration.toNat + 1) * (t.deltas.length + 1)

/-- Animates a step to a cell. -/
def walkTo (draw : Scene → Ticker → τ → τ) (step : Int) (target : Position) (s : Scene) (t : Ticker) (w : τ) :
    Scene × Ticker × τ :=
  match frames draw (stride s.figure.cell target · step) step (frameBound step t) 0 s t w with
  | (s, t, w) => frame draw { s with figure := s.figure.place target } t w

/-- Animates a flash on a cell. -/
def flashAt (draw : Scene → Ticker → τ → τ) (position : Position) (color : Color) (s : Scene) (t : Ticker)
    (w : τ) : Scene × Ticker × τ :=
  let s := { s with flash := some (position, color) }
  match frames draw (fun _ s => s) flashTime (frameBound flashTime t) 0 s t w with
  | (s, t, w) => frame draw { s with flash := none } t w

/-- Animates an event: a step as a walk to its cell, another event by its flash if it has one. -/
def play (draw : Scene → Ticker → τ → τ) (step : Int) (event : Walk.Event) (s : Scene) (t : Ticker) (w : τ) :
    Scene × Ticker × τ :=
  if event.kind = .moved then walkTo draw step event.position s t w
  else
    let s := if event.kind = .collectedEnergy then { s with figure := { s.figure with energized := true } } else s
    match Color.flash? event.kind with
    | none => (s, t, w)
    | some color => flashAt draw event.position color s t w

end Animation

/-- The colours of a tile at its corner, inside and at its centre. -/
structure Sample where
  corner : Color
  inner : Color
  center : Color
deriving DecidableEq, Repr

/-- The colours of a tile below flash and player: those of the last cell that is drawn there, with its
border and guide dot. A tile without a cell stays as the window was. -/
def cellSample (s : Scene) (p : Position) : Sample :=
  match s.level.grid.cells.reverse.find? (·.position = p) with
  | none => ⟨Color.unpainted, Color.unpainted, Color.unpainted⟩
  | some c =>
    let fill := Color.ofTerrain c.terrain
    ⟨fill.border, fill, if c.onGuide && s.level.hasGuide then Color.guideDot else fill⟩

/-- The colours of a tile: the cell, over it the flash frame, over both the player. -/
def sample (s : Scene) (p : Position) : Sample :=
  let below := s.cellSample p
  let corner := match s.flash with
    | some (position, color) => if position = p then color else below.corner
    | none => below.corner
  let center := if s.figure.corner = Figure.cornerOf p then Color.player s.figure.energized else below.center
  { corner, inner := below.inner, center }

/-- The colours of all tiles, row by row. -/
def samples (s : Scene) : List (List Sample) :=
  (List.range s.level.height).map fun (y : Nat) => (List.range s.level.width).map fun (x : Nat) => s.sample ⟨x, y⟩

end Scene
end GridWalk.Client
