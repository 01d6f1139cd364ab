import Flowchart.Json.Decoder
import Flowchart.Text.Blank

/-!
# Configurations

The configuration of a node is the object that describes it. A look-up says which type it wants; a
key that is absent or null holds nothing, and a value of another type is a mistake that names both.
-/

namespace Flowchart

/-- The kinds of values that configurations distinguish. -/
inductive Shape where
  /-- The null value. -/
  | null
  /-- A truth value. -/
  | boolean
  /-- A number. -/
  | number
  /-- An integer of at most 64 bits that is not negative. -/
  | natural
  /-- A text. -/
  | text
  /-- A sequence. -/
  | array
  /-- An object. -/
  | object
deriving DecidableEq

/-- How a message names a kind of value. -/
def Shape.describe : Shape → String
  | null => "null"
  | boolean => "a boolean"
  | number => "a number"
  | natural => "a non-negative integer"
  | text => "a string"
  | array => "an array"
  | object => "an object"

/-- The kind of a value. -/
def Json.shape : Json → Shape
  | .null => .null
  | .bool _ => .boolean
  | .number _ => .number
  | .string _ => .text
  | .array _ => .array
  | .object _ => .object

/-- The number of a document that is an integer of at most 64 bits and not negative. -/
def Json.natural? : Json → Option Nat
  | .number (.int i) => if 0 ≤ i ∧ i < Decimal.wordLimit then some i.toNat else none
  | _ => none

/-- The configuration of a node. -/
structure NodeConfig where
  /-- Its entries. -/
  entries : Json.Entries := []
deriving DecidableEq, Inhabited

namespace NodeConfig

/-- Why a configuration does not give what is asked of it. -/
inductive Error where
  /-- The value under a key is of another type. -/
  | wrongType (key : String) (expected found : Shape)
  /-- The value under a key does not read as the record it should be. -/
  | unreadable (key : String) (mismatch : Json.Mismatch)
  /-- The text that holds the configuration is no document. -/
  | notJson
deriving DecidableEq

/-- The key of a whole configuration. -/
def wholeKey : String :=
  "configPayload"

/-- The wording of the failure. -/
def Error.message : Error → String
  | .wrongType key expected found =>
    "config key '" ++ key ++ "' must be " ++ expected.describe ++ ", found " ++ found.describe
  | .unreadable key mismatch => "config key '" ++ key ++ "' is invalid: " ++ mismatch.message
  | .notJson => "config key '" ++ wholeKey ++ "' is invalid: the text is no document"

/-- The configuration of a document: an object, or null for none. -/
def ofJson? : Json → Except Error NodeConfig
  | .object entries => .ok { entries }
  | .null => .ok {}
  | found => .error (.wrongType wholeKey .object found.shape)

/-- The configuration that a text holds; a blank text holds none. -/
def ofText? (text : String) : Except Error NodeConfig :=
  if Text.allBlank text then .ok {}
  else
    match Json.ofText? text with
    | some j => ofJson? j
    | none => .error .notJson

/-- The keys, in order. -/
def keys (c : NodeConfig) : List String :=
  c.entries.keys

/-- Puts a value under a key. -/
def insert (c : NodeConfig) (key : String) (value : Json) : NodeConfig where
  entries := c.entries.insert key value

/-- The value under a key, if there is one that is not null. -/
def get? (c : NodeConfig) (key : String) : Option Json :=
  (c.entries.find? key).filter (· ≠ .null)

/-- The text under a key. -/
def text? (c : NodeConfig) (key : String) : Except Error (Option String) :=
  match c.get? key with
  | none => .ok none
  | some (.string s) => .ok (some s)
  | some found => .error (.wrongType key .text found.shape)

/-- The text under a key, or another one if there is none or an empty one. -/
def textOr (c : NodeConfig) (key default : String) : Except Error String :=
  (c.text? key).map fun
    | some s => if s = "" then default else s
    | none => default

/-- The truth value under a key. -/
def bool? (c : NodeConfig) (key : String) : Except Error (Option Bool) :=
  match c.get? key with
  | none => .ok none
  | some (.bool b) => .ok (some b)
  | some found => .error (.wrongType key .boolean found.shape)

/-- The natural number under a key. -/
def natural? (c : NodeConfig) (key : String) : Except Error (Option Nat) :=
  match c.get? key with
  | none => .ok none
  | some value =>
    match value.natural? with
    | some n => .ok (some n)
    | none => .error (.wrongType key .natural value.shape)

/-- The entries of the object under a key. -/
def object? (c : NodeConfig) (key : String) : Except Error (Option Json.Entries) :=
  match c.get? key with
  | none => .ok none
  | some (.object es) => .ok (some es)
  | some found => .error (.wrongType key .object found.shape)

/-- The items of the sequence under a key. -/
def array? (c : NodeConfig) (key : String) : Except Error (Option (List Json)) :=
  match c.get? key with
  | none => .ok none
  | some (.array xs) => .ok (some xs)
  | some found => .error (.wrongType key .array found.shape)

/-- The object under a key as a configuration of its own. -/
def section? (c : NodeConfig) (key : String) : Except Error NodeConfig :=
  (c.object? key).map fun entries? => { entries := entries?.getD [] }

end NodeConfig

end Flowchart
