import GridWalk.Level.Basic
import GridWalk.Walk.Event

/-! # Colours

The colours of cells, of the player and of the flashes that follow events. -/

namespace GridWalk.Client

/-- A colour by its parts, from 0 to 255 where it can be drawn. -/
structure Color where
  red : Int
  green : Int
  blue : Int
deriving DecidableEq, Repr

namespace Color

/-- A part of a colour darkened by a factor, as a whole number. -/
def darkenPart (factor : Number) (part : Int) : Except NumberError Int :=
  match factor with
  | .whole n => .ok (part * n)
  | .real x => do ((← Binary64.ofInt part).mul x).truncate

/-- The colour darkened by a factor. -/
def darken (factor : Number) (c : Color) : Except NumberError Color := do
  return ⟨← darkenPart factor c.red, ← darkenPart factor c.green, ← darkenPart factor c.blue⟩

/-- The factor by which borders are darker: six tenths. -/
def borderFactor : Number := .real (.ofDecimal false 6 (-1))

/-- The colour of the border around a cell. -/
def border (c : Color) : Color := ((c.darken borderFactor).toOption).getD c

/-- A part of a colour as two hexadecimal digits. -/
def hexPart (n : Int) : String :=
  String.ofList [Nat.digitChar (n.toNat / 16 % 16), Nat.digitChar (n.toNat % 16)]

/-- The colour as six hexadecimal digits. -/
def text (c : Color) : String := hexPart c.red ++ hexPart c.green ++ hexPart c.blue

/-- The colour of the cells of a terrain. -/
def ofTerrain : Terrain → Color
  | .safe => ⟨34, 197, 94⟩
  | .energy => ⟨251, 191, 36⟩
  | .void => ⟨0, 0, 0⟩
  | .snake => ⟨220, 38, 38⟩
  | .door => ⟨37, 99, 235⟩

/-- The colour of the dots of a guide path. -/
def guideDot : Color := ⟨255, 255, 255⟩

/-- The colour of a window before anything is drawn. -/
def unpainted : Color := ⟨0, 0, 0⟩

/-- The colour of the player. -/
def player (energized : Bool) : Color := if energized then ⟨253, 224, 71⟩ else ⟨240, 240, 240⟩

/-- The colour that flashes after an event. -/
def flash? : Walk.EventKind → Option Color
  | .collectedEnergy => some ⟨253, 224, 71⟩
  | .failed => some ⟨127, 29, 29⟩
  | .doorLocked => some ⟨30, 58, 138⟩
  | .victory => some ⟨147, 197, 253⟩
  | .moved | .exhausted => none

end Color
end GridWalk.Client
