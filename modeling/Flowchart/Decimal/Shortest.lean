import Flowchart.Decimal.Digits
import Flowchart.Decimal.Binary64

/-!
# The shortest decimal text of a number

Among the decimal numerals that read back as a given binary number, `shortest` finds those with the
fewest digits and of these the one nearest to the number. It walks the decimal grids from one to
seventeen digits and tries on each grid the two neighbours of the number, in exact arithmetic: if
any point of a grid reads back, so does one of these.
-/

namespace Flowchart

namespace Binary64

/-- The interval of reals that round to a magnitude, all three over one denominator: the lower end,
the number itself and the upper end. -/
structure Interval where
  /-- Half way to the number below. -/
  lower : Nat
  /-- The number itself. -/
  middle : Nat
  /-- Half way to the number above. -/
  upper : Nat
  /-- The common denominator. -/
  denominator : Nat
  /-- The ends belong to the interval, as a tie goes to an even significand. -/
  closed : Bool

/-- The reals that round to the magnitude of `x`. The gap below a power of two is half as wide. -/
def interval (x : Binary64) : Interval :=
  let narrow := x.significand == topBit && x.scale != 0
  let unit := Nat.pow 2 (x.scale - 1074)
  { lower := 4 * x.numerator - (if narrow then unit else 2 * unit)
    middle := 4 * x.numerator
    upper := 4 * x.numerator + 2 * unit
    denominator := 4 * x.denominator
    closed := x.significand % 2 == 0 }

/-- The fraction `num / den` lies in the interval. -/
def Interval.contains (i : Interval) (num den : Nat) : Bool :=
  let lo := i.lower * den
  let hi := i.upper * den
  let v := num * i.denominator
  if i.closed then lo ≤ v && v ≤ hi else lo < v && v < hi

/-- A decimal numeral `0.d₁d₂… * 10 ^ point`, as the number of its digits and its point. -/
structure Numeral where
  /-- The digits, read as one natural number. -/
  digits : Nat
  /-- Where the point stands, counted from the first digit. -/
  point : Int
deriving DecidableEq

/-- The power of ten just above `num / den`: the least `p` with `num / den < 10 ^ p`. Walks up from
`p`, at most `fuel` steps. -/
def pointAbove (num den : Nat) : Nat → Int → Int
  | 0, p => p
  | fuel + 1, p =>
    if num * Nat.pow 10 (-p).toNat < den * Nat.pow 10 p.toNat then p else pointAbove num den fuel (p + 1)

/-- The point of a magnitude, searched from a lower estimate by its bit length. -/
def pointOf (num den : Nat) : Int :=
  let bits : Int := (num.log2 : Int) - den.log2
  pointAbove num den 4 ((bits * 30103).fdiv 100000 - 1)

/-- The neighbours of the number on the grid of `count` digits that read back, the nearest one. -/
def onGrid? (i : Interval) (point : Int) (count : Nat) : Option Nat :=
  let shift : Int := point - count
  let up := Nat.pow 10 shift.toNat
  let down := Nat.pow 10 (-shift).toNat
  -- A grid point `d` is the fraction `d * up / down`.
  let below := i.middle * down / (i.denominator * up)
  let above := below + 1
  let hit (d : Nat) : Bool := i.contains (d * up) down
  let toBelow := i.middle * down - below * up * i.denominator
  let toAbove := above * up * i.denominator - i.middle * down
  match hit below, hit above with
  | true, true =>
    some (if toBelow < toAbove then below else if toAbove < toBelow then above
      else below + below % 2)
  | true, false => some below
  | false, true => some above
  | false, false => none

/-- The first grid with a numeral that reads back, from `count` digits on. -/
def firstGrid (i : Interval) (point : Int) : (fuel count : Nat) → Numeral
  | 0, count => ⟨Nat.pow 10 count, point⟩
  | fuel + 1, count =>
    match onGrid? i point count with
    | some d => if d = Nat.pow 10 count then ⟨1, point + 1⟩ else ⟨d, point⟩
    | none => firstGrid i point fuel (count + 1)

/-- The shortest numeral that reads back as the magnitude of a number other than zero. -/
def shortest (x : Binary64) : Numeral :=
  firstGrid x.interval (pointOf x.numerator x.denominator) 17 1

/-- Where a numeral is written with its point in place, and how the exponent is marked elsewhere. -/
structure Layout where
  /-- Least exponent of the first digit that is written positionally. -/
  least : Int
  /-- Greatest exponent of the first digit that is written positionally. -/
  greatest : Int
deriving DecidableEq

/-- A numeral as text. Positional text always shows a digit on both sides of the point; otherwise
one digit stands before the point and the exponent carries its sign. -/
def Numeral.render (layout : Layout) (n : Numeral) : List Char :=
  let ds := Decimal.digits n.digits
  let exponent := n.point - 1
  if layout.least ≤ exponent ∧ exponent ≤ layout.greatest then
    if n.point ≤ 0 then
      '0' :: '.' :: (List.replicate (-n.point).toNat '0' ++ ds)
    else
      let whole := n.point.toNat
      let front := ds.take whole ++ List.replicate (whole - ds.length) '0'
      let back := ds.drop whole
      front ++ '.' :: (if back.isEmpty then ['0'] else back)
  else
    let tail := match ds with
      | [] => []
      | [d] => [d]
      | d :: more => d :: '.' :: more
    let sign := if exponent < 0 then '-' else '+'
    tail ++ 'e' :: sign :: Decimal.digits exponent.natAbs

end Binary64

end Flowchart
