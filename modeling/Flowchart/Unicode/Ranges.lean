import Flowchart.Text.Hex

/-!
# Ranges of code points

Tables of code points are kept as text, such as `41-5A 61-7A AA`, and read when they are needed.
-/

namespace Flowchart

namespace Unicode

/-- Inclusive ranges of code points, in any order. -/
abbrev Ranges := List (Nat × Nat)

namespace Ranges

/-- Puts a range in front of others, if its end was read. -/
def put (low high : Option Nat) (rs : Ranges) : Ranges :=
  match high with
  | none => rs
  | some n => (low.getD n, n) :: rs

/-- Reads a table: hexadecimal numbers and ranges of them, with white space between. `low` is the
start of a range whose end is being read, `acc` the number read so far. -/
def read : (low acc : Option Nat) → List Char → Ranges
  | low, acc, [] => put low acc []
  | low, acc, c :: text =>
    match Text.hexValue? c with
    | some d => read low (some (16 * acc.getD 0 + d.val)) text
    | none => if c = '-' then read acc none text else put low acc (read none none text)

/-- The ranges of a table. -/
def ofText (table : String) : Ranges :=
  read none none table.toList

end Ranges

end Unicode

end Flowchart
