import GridWalk.Level.Layout

/-! # Pictures of levels

A level is drawn in the characters of written layouts, with the player at a position if one is given.
The guide path is drawn where its cells say that they are. Row and column numbers can be added as
margins. -/

namespace GridWalk.Picture

/-- A position that lies outside the rows of a picture. -/
inductive DrawError
  | outside
deriving DecidableEq, Repr

/-- The mark of the player. -/
def playerMark : Char := '@'

/-- The index that a whole number counts: from the front, or from the end if it is negative. -/
def index? (length : Nat) (i : Int) : Option Nat :=
  if 0 ≤ i then (if i < length then some i.toNat else none)
  else if -i ≤ length then some (i + length).toNat else none

/-- The rows with a mark at a position; coordinates may count from the end. -/
def mark (l : Level) (p : Position) (c : Char) (rows : List (List Char)) : Except DrawError (List (List Char)) :=
  match index? l.height p.y, index? l.width p.x with
  | some row, some column => .ok (rows.modify row (·.set column c))
  | _, _ => .error .outside

/-- Whether the guide path shows on a cell. -/
def showsGuide (c : Cell) : Bool := c.onGuide && c.terrain = .safe

/-- The level without a player: its terrain, the guide path over it, and the start over both. -/
def board (l : Level) : Except DrawError (List (List Char)) := do
  let terrain := l.grid.map (·.map (·.terrain.glyph))
  let guided ← (l.grid.cells.filter showsGuide).foldlM (fun rows c => mark l c.position Layout.guideMark rows) terrain
  mark l l.start Layout.startMark guided

/-- A text padded on the left to a width. -/
def padded (width : Nat) (cs : List Char) : List Char := List.replicate (width - cs.length) ' ' ++ cs

/-- The width of the row numbers. -/
def labelWidth (height : Nat) : Nat := max 2 (toString (height - 1)).length

/-- The rows between their numbers and below the last digits of the column numbers. -/
def withMargins (width : Nat) (rows : List (List Char)) : List (List Char) :=
  let label := labelWidth rows.length
  (List.replicate (label + 1) ' ' ++ (List.range width).map fun x => Nat.digitChar (x % 10)) ::
    rows.zipIdx.map fun (row, y) => padded label (toString y).toList ++ ' ' :: row

/-- The rows of a picture. -/
def rows (l : Level) (player : Option Position) (margins : Bool) : Except DrawError (List (List Char)) := do
  let board ← board l
  let plain ← match player with
    | none => pure board
    | some p => mark l p playerMark board
  return if margins then withMargins l.width plain else plain

/-- A picture as lines of text. -/
def lines (l : Level) (player : Option Position) (margins : Bool) : Except DrawError (List String) :=
  (rows l player margins).map (·.map String.ofList)

/-- A picture as one text. -/
def render (l : Level) (player : Option Position) (margins : Bool) : Except DrawError String :=
  (lines l player margins).map ("\n".intercalate ·)

/-- The picture with margins of a level that is played: its cells are where they say, and the player is on it. -/
def text (l : Level) (player : Option Position) : String := ((render l player true).toOption).getD ""

end GridWalk.Picture
