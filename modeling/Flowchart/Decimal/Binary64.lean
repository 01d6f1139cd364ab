/-!
# Finite binary floating point

A finite number of the 64-bit binary format: 53 significant bits and exponents from -1074 up. The
magnitude is kept as the position of the number among the non-negative numbers of the format, so
magnitudes compare as natural numbers and two equal records are the same number with the same sign.

All arithmetic is exact on natural numbers and is rounded once, by `ofRatio?`.
-/

namespace Flowchart

/-- A finite number of the 64-bit binary format. Both signs of zero are kept apart. -/
structure Binary64 where
  /-- The sign bit. -/
  negative : Bool
  /-- The bits below the sign. -/
  magnitude : Nat
  /-- The magnitude stays below the one of infinity. -/
  finite : magnitude < 0x7FF0000000000000 := by decide
deriving DecidableEq

namespace Binary64

/-- Positive zero. -/
def zero : Binary64 where
  negative := false
  magnitude := 0

instance : Inhabited Binary64 := ⟨zero⟩

/-- The number is one of the two zeros. -/
def isZero (x : Binary64) : Bool :=
  x.magnitude == 0

/-- The number with the given sign and the same magnitude. -/
def withSign (negative : Bool) (x : Binary64) : Binary64 :=
  { x with negative }

/-- The highest bit of a significand, which is not kept with the magnitude. -/
def topBit : Nat := 0x10000000000000

/-- The magnitude is `significand * 2 ^ (scale - 1074)`. -/
def significand (x : Binary64) : Nat :=
  if x.magnitude < topBit then x.magnitude else topBit + x.magnitude % topBit

/-- The magnitude is `significand * 2 ^ (scale - 1074)`. -/
def scale (x : Binary64) : Nat :=
  x.magnitude / topBit - 1

/-- Numerator of the magnitude. -/
def numerator (x : Binary64) : Nat :=
  x.significand * Nat.pow 2 (x.scale - 1074)

/-- Denominator of the magnitude. -/
def denominator (x : Binary64) : Nat :=
  Nat.pow 2 (1074 - x.scale)

/-- A quotient rounded to the nearest natural number; a half goes to the even neighbour. -/
def roundDiv (num den : Nat) : Nat :=
  let q := num / den
  let r := num % den
  if 2 * r < den then q else if 2 * r > den then q + 1 else q + q % 2

/-- How far a quotient is scaled so that its whole part has 53 bits, or fewer at the bottom of the
format. The scale counts from the smallest exponent. -/
def scaleOf (num den : Nat) : Nat :=
  let guess := (num.log2 + 1074) - (den.log2 + 52)
  -- The two logarithms fix the quotient's bit length up to one.
  let fits (k : Nat) : Bool :=
    num * Nat.pow 2 (1074 - k) / (den * Nat.pow 2 (k - 1074)) < 2 * topBit
  if fits (guess - 1) then guess - 1 else guess

/-- The number nearest to a quotient, ties to even; none when it is beyond the largest one. -/
def ofRatio? (negative : Bool) (num den : Nat) : Option Binary64 :=
  let k := if num = 0 then 0 else scaleOf num den
  let m := k * topBit + roundDiv (num * Nat.pow 2 (1074 - k)) (den * Nat.pow 2 (k - 1074))
  if h : m < 0x7FF0000000000000 then some { negative, magnitude := m, finite := h } else none

/-- The number nearest to an integer; the integers of this library lie far inside the format. -/
def ofInt (i : Int) : Binary64 :=
  (ofRatio? (i < 0) i.natAbs 1).getD zero

/-- The rounded product. -/
def mul? (x y : Binary64) : Option Binary64 :=
  ofRatio? (x.negative != y.negative) (x.numerator * y.numerator) (x.denominator * y.denominator)

/-- The rounded quotient by a number other than zero. -/
def div? (x y : Binary64) : Option Binary64 :=
  ofRatio? (x.negative != y.negative) (x.numerator * y.denominator) (x.denominator * y.numerator)

/-- The position of a number on the number line; both zeros stand at the origin. -/
def position (x : Binary64) : Int :=
  if x.negative then -(x.magnitude : Int) else x.magnitude

/-- Numeric order, in which the two zeros are equal. -/
def compare (x y : Binary64) : Ordering :=
  Ord.compare x.position y.position

end Binary64

end Flowchart
