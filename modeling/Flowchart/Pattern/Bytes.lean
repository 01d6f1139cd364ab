import Flowchart.Unicode.CharSet

/-!
# Characters as bytes

The UTF-8 forms of characters, and of the members of a set as sequences of byte ranges. Every range of
characters is cut where the length of the forms changes, and then until the bytes behind the first
one that varies take all their values.
-/

namespace Flowchart

namespace Pattern

/-- A range of bytes. -/
structure ByteRange where
  /-- The first byte. -/
  low : Nat
  /-- The last byte. -/
  high : Nat
deriving DecidableEq

namespace ByteRange

/-- The blocks of code points with forms of one length, and how many bytes follow the first one. -/
def blocks : List (Nat × Nat × Nat) :=
  [(0, 0x7F, 0), (0x80, 0x7FF, 1), (0x800, 0xD7FF, 2), (0xE000, 0xFFFF, 2), (0x10000, 0x10FFFF, 3)]

/-- The form of a code point, with some bytes after the first one. -/
def encode (n : Nat) : (further : Nat) → List Nat
  | 0 => [n]
  | 1 => [0xC0 + n / 64, 0x80 + n % 64]
  | 2 => [0xE0 + n / 4096, 0x80 + n / 64 % 64, 0x80 + n % 64]
  | _ => [0xF0 + n / 262144, 0x80 + n / 4096 % 64, 0x80 + n / 64 % 64, 0x80 + n % 64]

/-- The form of a character. -/
def bytesOf (c : Char) : List Nat :=
  match blocks.find? fun b => b.1 ≤ c.toNat && c.toNat ≤ b.2.1 with
  | some b => encode c.toNat b.2.2
  | none => []

/-- Cuts a range of code points at multiples of `unit`, unless it lies between two of them, and what
is between the cuts at multiples of 64 times the unit, and so on. -/
def align : (levels unit low high : Nat) → List (Nat × Nat)
  | 0, _, low, high => [(low, high)]
  | levels + 1, unit, low, high =>
    if low / unit = high / unit then [(low, high)]
    else
      let first := (low + unit - 1) / unit * unit
      let last := (high + 1) / unit * unit
      (if low < first then [(low, first - 1)] else []) ++
        (if first < last then align levels (64 * unit) first (last - 1) else []) ++
        (if last ≤ high then [(last, high)] else [])

/-- The byte sequences of a range of code points. -/
def ofCodes (low high : Nat) : List (List ByteRange) :=
  blocks.flatMap fun b =>
    let low := max low b.1
    let high := min high b.2.1
    if low ≤ high then
      (align 3 64 low high).map fun r =>
        List.zipWith ByteRange.mk (encode r.1 b.2.2) (encode r.2 b.2.2)
    else []

/-- The byte sequences of the members of a set, in ascending order. -/
def ofSet (s : CharSet) : List (List ByteRange) :=
  s.ranges.flatMap fun r => ofCodes r.1 r.2

end ByteRange

end Pattern

end Flowchart
