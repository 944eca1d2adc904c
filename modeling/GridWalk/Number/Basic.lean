import GridWalk.Text.Quoted

/-! # Numbers

A number is whole, of any size, or a binary floating-point number of 64 bits. A finite one of these is
kept as the fraction that it is; an operation takes the exact result and rounds it to the nearest
fraction that has 53 binary digits, halves to the even neighbour. -/

namespace GridWalk

/-- Why a text or a number gives no number of the wanted kind. -/
inductive NumberError
  | notWhole (text : String)
  | tooManyDigits (digits : Nat)
  | notReal (text : String)
  | notANumber
  | infinite
  /-- A whole number beyond the floating-point ones. -/
  | beyondReals
deriving DecidableEq, Repr

/-- Texts of whole numbers with more digits are not read. -/
def maxDigits : Nat := 4300

/-- How much of a quoted text a message shows. -/
def shownLength : Nat := 200

/-- The text of an error. -/
def NumberError.message : NumberError → String
  | .notWhole text => "invalid literal for int() with base 10: " ++ Text.quotedUpTo shownLength text
  | .tooManyDigits digits =>
    s!"Exceeds the limit ({maxDigits} digits) for integer string conversion: value has {digits} digits" ++
      "; use sys.set_int_max_str_digits() to increase the limit"
  | .notReal text => "could not convert string to float: " ++ Text.quoted text
  | .notANumber => "cannot convert float NaN to integer"
  | .infinite => "cannot convert float infinity to integer"
  | .beyondReals => "int too large to convert to float"

/-- The nearest whole number, of two equally near ones the even one. -/
def nearestInt (q : Rat) : Int :=
  let below := q.floor
  let rest := q - below
  if rest < 1 / 2 then below
  else if 1 / 2 < rest then below + 1
  else if below % 2 = 0 then below else below + 1

/-- The whole part, towards zero. -/
def wholePart (q : Rat) : Int := q.num.tdiv q.den

/-- Two to a whole power. -/
def twoPower (e : Int) : Rat := if 0 ≤ e then (Nat.pow 2 e.toNat : Rat) else 1 / (Nat.pow 2 (-e).toNat : Rat)

/-- The exponent `e` with `2 ^ e ≤ |q| < 2 ^ (e + 1)`, for `q` other than zero. -/
def binaryExponent (q : Rat) : Int :=
  let guess : Int := (q.num.natAbs.log2 : Int) - q.den.log2
  let size : Rat := if q < 0 then -q else q
  if size < twoPower guess then guess - 1 else guess

/-- A floating-point number of 64 bits by its value; the two zeros are one. -/
inductive Binary64
  | finite (value : Rat)
  | infinity (negative : Bool)
  | nan
deriving DecidableEq, Repr

namespace Binary64

/-- The gap between neighbouring numbers near `q`. -/
def gap (q : Rat) : Rat := twoPower (max (binaryExponent q - 52) (-1074))

/-- The nearest number, beyond the largest one an infinity. -/
def ofRat (q : Rat) : Binary64 :=
  if q = 0 then .finite 0
  else
    let rounded := (nearestInt (q / gap q) : Rat) * gap q
    if twoPower 1024 ≤ rounded then .infinity false
    else if rounded ≤ -twoPower 1024 then .infinity true
    else .finite rounded

/-- The number nearest to `digits * 10 ^ exponent`. Beyond a thousand places nothing finite is left. -/
def ofDecimal (negative : Bool) (digits : Nat) (exponent : Int) : Binary64 :=
  let places : Int := (Nat.log2 digits : Int) * 30103 / 100000 + exponent
  let sign : Rat := if negative then -1 else 1
  if digits = 0 || places < -1000 then .finite 0
  else if 1000 < places then .infinity negative
  else if 0 ≤ exponent then ofRat (sign * ((digits * Nat.pow 10 exponent.toNat : Nat) : Rat))
  else ofRat (sign * (digits : Rat) / (Nat.pow 10 (-exponent).toNat : Rat))

/-- Whether a number is below zero. -/
def isNegative : Binary64 → Bool
  | finite q => q < 0
  | infinity negative => negative
  | nan => false

/-- Whether a number is zero. -/
def isZero (x : Binary64) : Bool := x == finite 0

/-- The sum, rounded. -/
def add : Binary64 → Binary64 → Binary64
  | nan, _ | _, nan => nan
  | finite p, finite q => ofRat (p + q)
  | infinity s, infinity t => if s = t then infinity s else nan
  | infinity s, finite _ | finite _, infinity s => infinity s

/-- The product, rounded. -/
def mul (x y : Binary64) : Binary64 :=
  match x, y with
  | nan, _ | _, nan => nan
  | finite p, finite q => ofRat (p * q)
  | _, _ => if x.isZero || y.isZero then nan else infinity (x.isNegative != y.isNegative)

/-- Whether `x` is less than `y`; nothing is less or greater than what is no number. -/
def less : Binary64 → Binary64 → Bool
  | nan, _ | _, nan => false
  | finite p, finite q => p < q
  | infinity s, infinity t => s && !t
  | infinity s, finite _ => s
  | finite _, infinity t => !t

/-- The whole number that a finite number is converted to. -/
def toIntBy (convert : Rat → Int) : Binary64 → Except NumberError Int
  | finite q => .ok (convert q)
  | infinity _ => .error .infinite
  | nan => .error .notANumber

/-- The whole part, towards zero. -/
def truncate : Binary64 → Except NumberError Int := toIntBy wholePart

/-- The nearest whole number, a half going to the even one. -/
def nearest : Binary64 → Except NumberError Int := toIntBy nearestInt

/-- A whole number as a floating-point one. -/
def ofInt (n : Int) : Except NumberError Binary64 :=
  match ofRat n with
  | infinity _ => .error .beyondReals
  | x => .ok x

end Binary64

/-- A number as it is handed in. -/
inductive Number
  | whole (n : Int)
  | real (x : Binary64)
deriving DecidableEq, Repr

namespace Number

/-- The value, exact for whole numbers of any size. -/
def value : Number → Binary64
  | whole n => .finite n
  | real x => x

/-- Whether `a` is less than `b`, by exact values. -/
def less (a b : Number) : Bool := a.value.less b.value

/-- Whether a number is zero. -/
def isZero (a : Number) : Bool := a.value.isZero

/-- The whole part, towards zero. -/
def truncate (a : Number) : Except NumberError Int := a.value.truncate

/-- The digits of a fraction whose denominator is a power of two. -/
def dyadicText (q : Rat) : String :=
  let places := max 1 q.den.log2
  let unit := Nat.pow 10 places
  let scaled := q.num.natAbs * unit / q.den
  let fraction := toString (scaled % unit)
  (if q < 0 then "-" else "") ++ toString (scaled / unit) ++ "." ++
    String.ofList (List.replicate (places - fraction.length) '0') ++ fraction

/-- The number written out in full; a floating-point one has a point. -/
def text : Number → String
  | whole n => toString n
  | real (.finite q) => dyadicText q
  | real (.infinity negative) => if negative then "-Infinity" else "Infinity"
  | real .nan => "NaN"

end Number
end GridWalk
