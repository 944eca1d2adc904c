/-! # Positions

A position is a pair of whole numbers: the column counted from the left and the row counted from the
top. The same pair serves as a displacement, so positions add up and scale. -/

namespace GridWalk

/-- A place on the plane, or the way from one place to another. -/
@[ext]
structure Position where
  x : Int
  y : Int
deriving DecidableEq, Repr, Inhabited

/-- Coordinates as they are handed in, of any number. -/
abbrev Coordinates := List Int

/-- Why a list of coordinates is no position. -/
inductive CoordinateError
  | tooMany
  | tooFew (given : Nat)
deriving DecidableEq, Repr

/-- The text of an error. -/
def CoordinateError.message : CoordinateError → String
  | .tooMany => "too many values to unpack (expected 2)"
  | .tooFew given => s!"not enough values to unpack (expected 2, got {given})"

namespace Position

/-- The position in the top left corner. -/
def origin : Position := ⟨0, 0⟩

/-- The position that a displacement leads to. -/
def add (p q : Position) : Position := ⟨p.x + q.x, p.y + q.y⟩

instance : Add Position := ⟨add⟩

/-- The displacement `p` taken `k` times. -/
def scale (k : Int) (p : Position) : Position := ⟨k * p.x, k * p.y⟩

/-- The column and the row of a position. -/
def coordinates (p : Position) : Coordinates := [p.x, p.y]

/-- Two coordinates make a position. -/
def ofCoordinates : Coordinates → Except CoordinateError Position
  | [x, y] => .ok ⟨x, y⟩
  | [] => .error (.tooFew 0)
  | [_] => .error (.tooFew 1)
  | _ => .error .tooMany

/-- The position as messages write it: `(3, 0)`. -/
def text (p : Position) : String := s!"({p.x}, {p.y})"

/-- The position as event lines write it: `(3,0)`. -/
def tightText (p : Position) : String := s!"({p.x},{p.y})"

@[simp] theorem add_x (p q : Position) : (p + q).x = p.x + q.x := rfl

@[simp] theorem add_y (p q : Position) : (p + q).y = p.y + q.y := rfl

@[simp] theorem scale_x (k : Int) (p : Position) : (p.scale k).x = k * p.x := rfl

@[simp] theorem scale_y (k : Int) (p : Position) : (p.scale k).y = k * p.y := rfl

@[simp] theorem origin_x : origin.x = 0 := rfl

@[simp] theorem origin_y : origin.y = 0 := rfl

@[simp] theorem add_origin (p : Position) : p + origin = p :=
  Position.ext (Int.add_zero p.x) (Int.add_zero p.y)

@[simp] theorem origin_add (p : Position) : origin + p = p :=
  Position.ext (Int.zero_add p.x) (Int.zero_add p.y)

theorem add_assoc (p q r : Position) : p + q + r = p + (q + r) :=
  Position.ext (Int.add_assoc p.x q.x r.x) (Int.add_assoc p.y q.y r.y)

theorem add_right_comm (p q r : Position) : p + q + r = p + r + q :=
  Position.ext (Int.add_right_comm p.x q.x r.x) (Int.add_right_comm p.y q.y r.y)

@[simp] theorem scale_zero (p : Position) : p.scale 0 = origin :=
  Position.ext (Int.zero_mul p.x) (Int.zero_mul p.y)

@[simp] theorem scale_one (p : Position) : p.scale 1 = p :=
  Position.ext (Int.one_mul p.x) (Int.one_mul p.y)

theorem scale_add (k l : Int) (p : Position) : p.scale (k + l) = p.scale k + p.scale l :=
  Position.ext (Int.add_mul k l p.x) (Int.add_mul k l p.y)

theorem coordinates_inj {p q : Position} : p.coordinates = q.coordinates ↔ p = q := by
  refine ⟨fun h => ?_, congrArg coordinates⟩
  simp only [coordinates, List.cons.injEq, and_true] at h
  exact Position.ext h.1 h.2

@[simp] theorem ofCoordinates_coordinates (p : Position) : ofCoordinates p.coordinates = .ok p := rfl

end Position
end GridWalk
