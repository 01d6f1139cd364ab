/-!
# Decimal digits

Numbers in base ten: the digits of a natural number, and the value of a run of digits.
-/

namespace Flowchart

namespace Decimal

/-- The natural numbers of 64 bits lie below this one. -/
def wordLimit : Nat := 0x10000000000000000

/-- The value of an ASCII digit. -/
def digit? (c : Char) : Option Nat :=
  if '0' ≤ c ∧ c ≤ '9' then some (c.toNat - 48) else none

/-- One of the ten ASCII digits. -/
def isDigit (c : Char) : Bool :=
  (digit? c).isSome

/-- The ASCII digit of a value below ten. -/
def digitChar (d : Nat) : Char :=
  Char.ofNat (48 + d % 10)

/-- `digitsFrom fuel n acc` puts the digits of `n` in front of `acc`. -/
def digitsFrom : Nat → Nat → List Char → List Char
  | 0, _, acc => acc
  | fuel + 1, n, acc =>
    if n < 10 then digitChar n :: acc else digitsFrom fuel (n / 10) (digitChar (n % 10) :: acc)

/-- The digits of a natural number, most significant first, without leading zeros. -/
def digits (n : Nat) : List Char :=
  digitsFrom (n + 1) n []

/-- At least `width` digits, with leading zeros where there are fewer. -/
def padded (width n : Nat) : List Char :=
  let ds := digits n
  List.replicate (width - ds.length) '0' ++ ds

/-- The number that a run of digits denotes. -/
def value (ds : List Char) : Nat :=
  ds.foldl (fun n c => 10 * n + (digit? c).getD 0) 0

/-- The run of digits that the text starts with, and the rest. -/
def run (text : List Char) : List Char × List Char :=
  (text.takeWhile isDigit, text.dropWhile isDigit)

/-- A whole text of digits, with at least one. -/
def natural? (text : List Char) : Option Nat :=
  if text.isEmpty then none else if text.all isDigit then some (value text) else none

/-- A whole text of digits after an optional sign. -/
def integer? : List Char → Option Int
  | '-' :: text => (natural? text).map fun n => -(n : Int)
  | '+' :: text => (natural? text).map Int.ofNat
  | text => (natural? text).map Int.ofNat

/-- The decimal text of an integer. -/
def ofInt : Int → List Char
  | .ofNat n => digits n
  | .negSucc n => '-' :: digits (n + 1)

end Decimal

end Flowchart
