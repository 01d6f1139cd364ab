import Flowchart.Json.Printer
import Flowchart.Json.Raw
import Flowchart.SortedMap
import Flowchart.Text.Quoted

/-!
# Reading records

A decoder turns the written form of a document into a value of some type or says why it cannot. A
record is read from an object by the names of its fields, some of which have a second name, or from
a sequence by their order. Fields that may be missing keep their default, unknown fields are
skipped, and a field that is there twice is a mistake. The first mistake counts, in the order in
which the document is written.
-/

namespace Flowchart

namespace Json

/-- What was found where something else was wanted. -/
inductive Found where
  /-- The null value. -/
  | null
  /-- A truth value. -/
  | bool (value : Bool)
  /-- A number. -/
  | number (value : Number)
  /-- A text. -/
  | text (value : String)
  /-- A sequence. -/
  | sequence
  /-- An object. -/
  | map
deriving DecidableEq

/-- What was wanted. -/
inductive Wanted where
  /-- A text. -/
  | text
  /-- A truth value. -/
  | boolean
  /-- A natural number of at most 64 bits. -/
  | natural
  /-- A number. -/
  | float
  /-- A sequence. -/
  | sequence
  /-- An object with any keys. -/
  | map
  /-- A record. -/
  | record (name : String)
  /-- One of several words. -/
  | word (name : String)
deriving DecidableEq

/-- Why a document is not read. -/
inductive Mismatch where
  /-- A value of another type. -/
  | wrongType (found : Found) (wanted : Wanted)
  /-- A sequence with more items than the record has fields. -/
  | surplus (count : Nat)
  /-- The same of a sequence that was set aside first. -/
  | surplusAside (count taken : Nat)
  /-- A field that is there twice. -/
  | repeated (field : String)
  /-- A field that has to be there and is not. -/
  | missing (field : String)
  /-- A word that is none of those that may stand here. -/
  | unknownWord (word : String)
  /-- A text that is no identifier. -/
  | noUuid (text : String)
  /-- A text that is no point in time. -/
  | noInstant (text : String)
  /-- Nesting that is too deep, a number out of range or half a character. -/
  | unreadable
deriving DecidableEq

/-- How a message names what was found. -/
def Found.describe : Found → String
  | .null => "null"
  | .bool true => "boolean \x60true\x60"
  | .bool false => "boolean \x60false\x60"
  | .number (.int i) => "integer \x60" ++ String.ofList (Decimal.ofInt i) ++ "\x60"
  | .number (.float x) => "floating point \x60" ++ String.ofList (floatChars x) ++ "\x60"
  | .text s => "string " ++ Text.quoted s
  | .sequence => "sequence"
  | .map => "map"

/-- How a message names what was wanted. -/
def Wanted.describe : Wanted → String
  | .text => "a string"
  | .boolean => "a boolean"
  | .natural => "u64"
  | .float => "f64"
  | .sequence => "a sequence"
  | .map => "a map"
  | .record name => "struct " ++ name
  | .word name => "enum " ++ name

/-- The wording of a mistake. -/
def Mismatch.message : Mismatch → String
  | .wrongType found wanted => "invalid type: " ++ found.describe ++ ", expected " ++ wanted.describe
  | .surplus count =>
    "invalid length " ++ String.ofList (Decimal.digits count) ++ ", expected fewer elements in array"
  | .surplusAside count taken =>
    "invalid length " ++ String.ofList (Decimal.digits count) ++ ", expected " ++
      String.ofList (Decimal.digits taken) ++
      (if taken = 1 then " element in sequence" else " elements in sequence")
  | .repeated field => "duplicate field \x60" ++ field ++ "\x60"
  | .missing field => "missing field \x60" ++ field ++ "\x60"
  | .unknownWord word => "unknown variant \x60" ++ word ++ "\x60"
  | .noUuid text => "UUID parsing failed: " ++ Text.quoted text
  | .noInstant text => "no point in time: " ++ Text.quoted text
  | .unreadable => "unreadable value"

/-- Where a value is read. -/
structure Scope where
  /-- How many more levels of nesting are allowed. -/
  levels : Nat := depthLimit
  /-- The value was set aside before it is read. -/
  aside : Bool := false

/-- Reads a value of a type. -/
abbrev Decoder (α : Type) := Scope → Raw → Except Mismatch α

/-- What a written form holds, as a message names it. -/
def Raw.found? : Raw → Except Mismatch Found
  | .null => .ok .null
  | .bool b => .ok (.bool b)
  | .number (some n) => .ok (.number n)
  | .string (some s) => .ok (.text s)
  | .number none | .string none => .error .unreadable
  | .array _ => .ok .sequence
  | .object _ => .ok .map

/-- The mistake of a value that is not what was wanted. -/
def Raw.mismatch (raw : Raw) (wanted : Wanted) : Mismatch :=
  match raw.found? with
  | .ok found => .wrongType found wanted
  | .error e => e

namespace Decoder

variable {α ρ : Type}

/-- One level further in. -/
def inner (scope : Scope) : Except Mismatch Scope :=
  if scope.levels = 0 then .error .unreadable else .ok { scope with levels := scope.levels - 1 }

/-- A text. -/
def text : Decoder String
  | _, .string (some s) => .ok s
  | _, raw => .error (raw.mismatch .text)

/-- A truth value. -/
def bool : Decoder Bool
  | _, .bool b => .ok b
  | _, raw => .error (raw.mismatch .boolean)

/-- A natural number of at most 64 bits. -/
def natural : Decoder Nat
  | _, .number (some (.int i)) =>
    if 0 ≤ i ∧ i < Decimal.wordLimit then .ok i.toNat
    else .error (.wrongType (.number (.int i)) .natural)
  | _, raw => .error (raw.mismatch .natural)

/-- A number, as a binary one. -/
def float : Decoder Binary64
  | _, .number (some (.int i)) => .ok (Binary64.ofInt i)
  | _, .number (some (.float x)) => .ok x
  | _, raw => .error (raw.mismatch .float)

/-- Any document. -/
def document : Decoder Json
  | scope, raw =>
    match raw.toJson? scope.levels with
    | some j => .ok j
    | none => .error .unreadable

/-- A value, or null for none. -/
def option (d : Decoder α) : Decoder (Option α)
  | _, .null => .ok none
  | scope, raw => (d scope raw).map some

/-- Reads items one after another. -/
def items (d : Decoder α) (scope : Scope) : List Raw → Except Mismatch (List α)
  | [] => .ok []
  | x :: xs =>
    match d scope x with
    | .error e => .error e
    | .ok a => (items d scope xs).map (a :: ·)

/-- A sequence. -/
def list (d : Decoder α) : Decoder (List α)
  | scope, .array xs => (inner scope).bind fun scope => items d scope xs
  | _, raw => .error (raw.mismatch .sequence)

/-- Reads entries one after another. -/
def mapEntries (d : Decoder α) (scope : Scope) :
    List (Option String × Raw) → Except Mismatch (List (String × α))
  | [] => .ok []
  | (none, _) :: _ => .error .unreadable
  | (some k, x) :: es =>
    match d scope x with
    | .error e => .error e
    | .ok a => (mapEntries d scope es).map ((k, a) :: ·)

/-- An object with any keys, in the order of the keys. -/
def map (d : Decoder α) : Decoder (SortedMap α)
  | scope, .object es =>
    (inner scope).bind fun scope => (mapEntries d scope es).map SortedMap.ofList
  | _, raw => .error (raw.mismatch .map)

/-- One of several words, or an object with that word as its only key and null under it. -/
def word (name : String) (words : List (String × α)) : Decoder α :=
  let find (w : String) : Except Mismatch α :=
    match words.find? (·.1 == w) with
    | some (_, a) => .ok a
    | none => .error (.unknownWord w)
  fun
  | _, .string (some w) => find w
  | scope, .object [(some w, .null)] => (inner scope).bind fun _ => find w
  | _, .object _ => .error (.wrongType .map (.word name))
  | _, raw => .error (raw.mismatch (.word name))

/-- A value that a text stands for. -/
def ofText (read : String → Option α) (mistake : String → Mismatch) : Decoder α :=
  fun scope raw => (text scope raw).bind fun s =>
    match read s with
    | some a => .ok a
    | none => .error (mistake s)

/-! ## Records -/

/-- A field of a record that is being read into a value of type `ρ`. -/
structure Field (ρ : Type) where
  /-- The name under which it is written. -/
  name : String
  /-- Another name under which it is read. -/
  otherName : Option String := none
  /-- It has to be there. -/
  required : Bool := false
  /-- Reads the field and puts it into the record. -/
  read : Scope → Raw → ρ → Except Mismatch ρ

/-- A field read by a decoder and stored by `put`. -/
def Field.of (name : String) (d : Decoder α) (put : ρ → α → ρ) : Field ρ where
  name := name
  read := fun scope raw r => (d scope raw).map (put r)

/-- The same field, with a second name. -/
def Field.alsoNamed (f : Field ρ) (other : String) : Field ρ :=
  { f with otherName := some other }

/-- The same field, which has to be there. -/
def Field.need (f : Field ρ) : Field ρ :=
  { f with required := true }

/-- The field goes by this name. -/
def Field.isNamed (f : Field ρ) (key : String) : Bool :=
  f.name == key || f.otherName == some key

/-- Reads the entries of an object into a record, given the fields seen so far. -/
def readEntries (fields : List (Field ρ)) (scope : Scope) :
    (seen : List String) → ρ → List (Option String × Raw) → Except Mismatch ρ
  | seen, r, [] =>
    match fields.find? fun f => f.required && !seen.contains f.name with
    | some f => .error (.missing f.name)
    | none => .ok r
  | _, _, (none, _) :: _ => .error .unreadable
  | seen, r, (some key, raw) :: es =>
    match fields.find? (·.isNamed key) with
    | none => readEntries fields scope seen r es
    | some f =>
      if seen.contains f.name then .error (.repeated f.name)
      else
        match f.read scope raw r with
        | .error e => .error e
        | .ok r => readEntries fields scope (f.name :: seen) r es

/-- Reads the items of a sequence into a record, one for each field; `count` is how many items
there are in all, `taken` how many were read. -/
def readItems (scope : Scope) (count : Nat) :
    (taken : Nat) → List (Field ρ) → ρ → List Raw → Except Mismatch ρ
  | _, fields, r, [] =>
    match fields.find? (·.required) with
    | some f => .error (.missing f.name)
    | none => .ok r
  | taken, [], _, _ :: _ =>
    .error (if scope.aside then .surplusAside count taken else .surplus count)
  | taken, f :: fields, r, raw :: raws =>
    match f.read scope raw r with
    | .error e => .error e
    | .ok r => readItems scope count (taken + 1) fields r raws

/-- A record with the given fields, starting from a value that holds the defaults. -/
def record (name : String) (fields : List (Field ρ)) (start : ρ) : Decoder ρ
  | scope, .object es => (inner scope).bind fun scope => readEntries fields scope [] start es
  | scope, .array xs =>
    (inner scope).bind fun scope => readItems scope xs.length 0 fields start xs
  | _, raw => .error (raw.mismatch (.record name))

/-- Reads a value from a text. -/
def ofString (d : Decoder α) (s : String) : Except Mismatch α :=
  match Raw.ofText? s with
  | some raw => d {} raw
  | none => .error .unreadable

/-- A value is read from the characters of a text. -/
theorem ofString_ofList (d : Decoder α) (text : List Char) : d.ofString (.ofList text) =
    match readValue (text.length + 1) text with
    | some (raw, rest) => if (skipSpace rest).isEmpty then d {} raw else .error .unreadable
    | none => .error .unreadable := by
  rw [ofString, Raw.ofText?_ofList]
  cases readValue (text.length + 1) text with
  | none => rfl
  | some read =>
    dsimp only
    by_cases hrest : (skipSpace read.2).isEmpty = true
    · simp only [hrest, if_true]
    · simp only [hrest, if_false, Bool.false_eq_true]

/-- Reads a value from a document. -/
def ofJson (d : Decoder α) (j : Json) : Except Mismatch α :=
  d {} (Raw.ofJson j)

end Decoder

end Json

end Flowchart
