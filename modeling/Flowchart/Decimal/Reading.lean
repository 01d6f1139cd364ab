import Flowchart.Decimal.Digits
import Flowchart.Decimal.Binary64

/-!
# Reading a decimal numeral

Two readings of a decimal numeral as a binary number. `nearest?` is the correctly rounded one and
serves operands of conditions. `scaled?` is the fast one that documents are read with: it keeps as
many leading digits as fit a 64-bit word, converts them once, and multiplies or divides once by a
power of ten, so its last bit may differ from the nearest number.
-/

namespace Flowchart

namespace Decimal

/-- A decimal numeral in its written parts. -/
structure Numeral where
  /-- A minus sign stands in front. -/
  negative : Bool := false
  /-- Digits before the point. -/
  whole : List Char
  /-- Digits after the point. -/
  fraction : List Char := []
  /-- The exponent's sign and digits, when one is written. -/
  exponent : Option (Bool × List Char) := none
deriving DecidableEq

/-- The written exponent as an integer. -/
def Numeral.exponentValue (n : Numeral) : Int :=
  match n.exponent with
  | none => 0
  | some (true, ds) => -(value ds : Int)
  | some (false, ds) => value ds

/-- The nearest binary number; none when it lies beyond the largest one. -/
def Numeral.nearest? (n : Numeral) : Option Binary64 :=
  let ds := (n.whole ++ n.fraction).dropWhile (· == '0')
  let shift := n.exponentValue - n.fraction.length
  -- The numeral lies between the powers of ten `size - 1` and `size`.
  let size : Int := ds.length + shift
  if ds.isEmpty || size < -400 then some (Binary64.zero.withSign n.negative)
  else if size > 400 then none
  else Binary64.ofRatio? n.negative (value ds * Nat.pow 10 shift.toNat)
    (Nat.pow 10 (-shift).toNat)

/-! ## The fast reading -/

/-- The leading digits that fit a 64-bit word, as a number, and the digits left over. -/
def leading : (acc : Nat) → List Char → Nat × List Char
  | acc, [] => (acc, [])
  | acc, c :: ds =>
    let next := 10 * acc + (digit? c).getD 0
    if next < wordLimit then leading next ds else (acc, c :: ds)

/-- Scales by a power of ten, at most 308 places at a time. None when the number overflows. -/
def scaleBy : (fuel : Nat) → Binary64 → Int → Option Binary64
  | 0, x, _ => some x
  | fuel + 1, x, e =>
    if e.natAbs ≤ 308 then
      match Binary64.ofRatio? false (Nat.pow 10 e.natAbs) 1 with
      | none => none
      | some power => if 0 ≤ e then x.mul? power else x.div? power
    else if x.isZero then some x
    else if 0 ≤ e then none
    else
      match Binary64.ofRatio? false (Nat.pow 10 308) 1 with
      | none => none
      | some power => (x.div? power).bind fun y => scaleBy fuel y (e + 308)

/-- The largest exponent that is still read; beyond it a number is zero or out of range. -/
def exponentLimit : Nat := 2147483647

/-- The binary number of a numeral by leading digits and one scaling; none when out of range. -/
def Numeral.scaled? (n : Numeral) : Option Binary64 :=
  let (head, left) := leading 0 n.whole
  let (significand, dropped) := leading head n.fraction
  let places : Int := left.length - (n.fraction.length - dropped.length : Nat)
  let overflowing : Bool := match n.exponent with
    | some (_, ds) => exponentLimit < value ds
    | none => false
  if overflowing then
    if significand ≠ 0 ∧ 0 < n.exponentValue then none
    else some (Binary64.zero.withSign n.negative)
  else
    -- Three divisions by 10 ^ 308 already bring every significand to zero.
    (scaleBy 4 (Binary64.ofInt significand) (places + n.exponentValue)).map
      (·.withSign n.negative)

/-! ## Operands -/

/-- Splits off a run of digits with an optional sign, as an exponent is written. -/
def exponent? : List Char → Option ((Bool × List Char) × List Char)
  | text =>
    let (negative, text) := match text with
      | '-' :: r => (true, r)
      | '+' :: r => (false, r)
      | r => (false, r)
    let (ds, rest) := run text
    if ds.isEmpty then none else some ((negative, ds), rest)

/-- Reads a whole text as a numeral: an optional sign, digits with an optional point among or
around them, and an optional exponent. -/
def Numeral.ofText? (text : List Char) : Option Numeral :=
  let (negative, text) := match text with
    | '-' :: r => (true, r)
    | '+' :: r => (false, r)
    | r => (false, r)
  let (whole, text) := run text
  let (fraction, text) := match text with
    | '.' :: r => run r
    | r => ([], r)
  if whole.isEmpty && fraction.isEmpty then none
  else match text with
    | [] => some { negative, whole, fraction }
    | c :: r =>
      if c = 'e' ∨ c = 'E' then
        match exponent? r with
        | some (e, []) => some { negative, whole, fraction, exponent := some e }
        | _ => none
      else none

/-- The finite number that a whole text denotes, correctly rounded. The words for infinity and for
no number denote nothing finite, and neither does a numeral beyond the largest number. -/
def finite? (text : List Char) : Option Binary64 :=
  (Numeral.ofText? text).bind Numeral.nearest?

end Decimal

end Flowchart
