import Flowchart.Decimal.Binary64

/-!
# Documents

The values of the JSON data format as this library keeps them. Integers and binary numbers are
different numbers: `1` and `1.0` are not equal. An object is the list of its entries in the order
they were written; the readers and the operations of `Flowchart.Json.Entries` keep its keys distinct.
-/

namespace Flowchart

/-- A number of a document. -/
inductive Json.Number where
  /-- A number written without a point or exponent, within the 64-bit ranges. -/
  | int (value : Int)
  /-- Any other number. -/
  | float (value : Binary64)
deriving DecidableEq, Inhabited

/-- A document. -/
inductive Json where
  /-- The null value. -/
  | null
  /-- A truth value. -/
  | bool (value : Bool)
  /-- A number. -/
  | number (value : Json.Number)
  /-- A text. -/
  | string (value : String)
  /-- A sequence. -/
  | array (items : List Json)
  /-- An object: its entries, in order. -/
  | object (entries : List (String × Json))
deriving Inhabited

namespace Json

/-- The entries of an object. -/
abbrev Entries := List (String × Json)

/-! ## Equality is decidable -/

mutual

/-- Decides equality of documents. -/
def decEq : (a b : Json) → Decidable (a = b)
  | .null, b => match b with
    | .null => .isTrue rfl
    | .bool _ | .number _ | .string _ | .array _ | .object _ => .isFalse nofun
  | .bool x, b => match b with
    | .bool y => decidable_of_iff (x = y) (by simp)
    | .null | .number _ | .string _ | .array _ | .object _ => .isFalse nofun
  | .number x, b => match b with
    | .number y => decidable_of_iff (x = y) (by simp)
    | .null | .bool _ | .string _ | .array _ | .object _ => .isFalse nofun
  | .string x, b => match b with
    | .string y => decidable_of_iff (x = y) (by simp)
    | .null | .bool _ | .number _ | .array _ | .object _ => .isFalse nofun
  | .array xs, b => match b with
    | .array ys => @decidable_of_iff _ (xs = ys) (by simp) (decEqItems xs ys)
    | .null | .bool _ | .number _ | .string _ | .object _ => .isFalse nofun
  | .object xs, b => match b with
    | .object ys => @decidable_of_iff _ (xs = ys) (by simp) (decEqEntries xs ys)
    | .null | .bool _ | .number _ | .string _ | .array _ => .isFalse nofun

/-- Decides equality of sequences. -/
def decEqItems : (xs ys : List Json) → Decidable (xs = ys)
  | [], [] => .isTrue rfl
  | [], _ :: _ | _ :: _, [] => .isFalse nofun
  | x :: xs, y :: ys =>
    match decEq x y, decEqItems xs ys with
    | .isTrue h, .isTrue t => .isTrue (h ▸ t ▸ rfl)
    | .isFalse h, _ => .isFalse fun e => h (List.cons.inj e).1
    | _, .isFalse t => .isFalse fun e => t (List.cons.inj e).2

/-- Decides equality of lists of entries. -/
def decEqEntries : (xs ys : List (String × Json)) → Decidable (xs = ys)
  | [], [] => .isTrue rfl
  | [], _ :: _ | _ :: _, [] => .isFalse nofun
  | (k, x) :: xs, (l, y) :: ys =>
    match decEq x y, decEqEntries xs ys with
    | .isTrue h, .isTrue t =>
      @decidable_of_iff _ (k = l) (by simp [h, t]) inferInstance
    | .isFalse h, _ => .isFalse fun e => h (Prod.mk.inj (List.cons.inj e).1).2
    | _, .isFalse t => .isFalse fun e => t (List.cons.inj e).2

end

instance : DecidableEq Json := decEq

/-- An integer document. -/
def ofInt (i : Int) : Json :=
  .number (.int i)

/-- A text that may be absent, as null or a string. -/
def textOrNull : Option String → Json
  | none => .null
  | some s => .string s

end Json

end Flowchart
