/-!
# Hexadecimal digits

Both cases are read, lower case is written.
-/

namespace Flowchart

namespace Text

/-- The value of the last hexadecimal digit of a number. -/
def lastHex (n : Nat) : Fin 16 :=
  ⟨n % 16, Nat.mod_lt n (by decide)⟩

/-- The value of a hexadecimal digit of either case. -/
def hexValue? (c : Char) : Option (Fin 16) :=
  if '0' ≤ c ∧ c ≤ '9' then some (lastHex (c.toNat - 48))
  else if 'a' ≤ c ∧ c ≤ 'f' then some (lastHex (c.toNat - 87))
  else if 'A' ≤ c ∧ c ≤ 'F' then some (lastHex (c.toNat - 55))
  else none

/-- The digit of a value, in lower case. -/
def hexDigit (d : Fin 16) : Char :=
  if d.val < 10 then Char.ofNat (48 + d.val) else Char.ofNat (87 + d.val)

/-- `hexFrom fuel n acc` puts the hexadecimal digits of `n` in front of `acc`. -/
def hexFrom : Nat → Nat → List Char → List Char
  | 0, _, acc => acc
  | fuel + 1, n, acc =>
    let acc := hexDigit (lastHex n) :: acc
    if n < 16 then acc else hexFrom fuel (n / 16) acc

/-- The hexadecimal digits of a natural number, without leading zeros. -/
def hexDigits (n : Nat) : List Char :=
  hexFrom (n + 1) n []

/-- The number that a run of hexadecimal digits writes; none if there is another character. -/
def hexNumber? (ds : List Char) : Option Nat :=
  ds.foldl (fun n? c => n?.bind fun n => (hexValue? c).map fun d => 16 * n + d.val) (some 0)

@[simp] theorem hexValue?_hexDigit (d : Fin 16) : hexValue? (hexDigit d) = some d := by
  revert d; decide

end Text

end Flowchart
