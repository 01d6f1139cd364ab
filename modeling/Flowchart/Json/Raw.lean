import Flowchart.Decimal.Reading
import Flowchart.Json.Entries
import Flowchart.Text.Hex

/-!
# The written form of a document

A `Raw` is a text that has the grammar of a document, before its meaning is checked: keys may repeat,
a number may lie out of range, an escape may name half a character, and nesting has no limit. What
is skipped needs the grammar alone; what is kept goes through `toJson?`, which rejects the rest.
-/

namespace Flowchart

namespace Json

/-- A text with the grammar of a document. -/
inductive Raw where
  /-- The null value. -/
  | null
  /-- A truth value. -/
  | bool (value : Bool)
  /-- A number; none when it is out of range. -/
  | number (value : Option Number)
  /-- A text; none when an escape names half a character. -/
  | string (value : Option String)
  /-- A sequence. -/
  | array (items : List Raw)
  /-- An object with its entries as written, repetitions included. -/
  | object (entries : List (Option String × Raw))
deriving Inhabited

/-! ## Strings -/

/-- One element of a written string: a character, or a 16-bit unit given by its number. -/
inductive Piece where
  /-- A character that stands for itself or has an escape of its own. -/
  | char (c : Char)
  /-- A numbered unit. -/
  | unit (n : Nat)
deriving DecidableEq

/-- The character that a letter after a backslash stands for. -/
def escape? : Char → Option Char
  | '"' => some '"'
  | '\\' => some '\\'
  | '/' => some '/'
  | 'b' => some '\x08'
  | 'f' => some '\x0c'
  | 'n' => some '\n'
  | 'r' => some '\r'
  | 't' => some '\t'
  | _ => none

/-- The pieces up to the closing quote, and what follows it. -/
def stringPieces : List Char → Option (List Piece × List Char)
  | [] => none
  | '"' :: text => some ([], text)
  | '\\' :: 'u' :: a :: b :: c :: d :: text =>
    match Text.hexNumber? [a, b, c, d], stringPieces text with
    | some n, some (ps, rest) => some (.unit n :: ps, rest)
    | _, _ => none
  | '\\' :: e :: text =>
    match escape? e, stringPieces text with
    | some c, some (ps, rest) => some (.char c :: ps, rest)
    | _, _ => none
  | c :: text =>
    if c.toNat < 32 ∨ c = '\\' then none
    else (stringPieces text).map fun (ps, rest) => (.char c :: ps, rest)

/-- The characters of the pieces. A unit of the upper half of a pair must be followed by one of the
lower half; alone, neither is a character. -/
def joinPieces : List Piece → Option (List Char)
  | [] => some []
  | .char c :: ps => (joinPieces ps).map (c :: ·)
  | .unit n :: ps =>
    if 0xD800 ≤ n ∧ n < 0xDC00 then
      match ps with
      | .unit m :: ps =>
        if 0xDC00 ≤ m ∧ m < 0xE000 then
          (joinPieces ps).map (Char.ofNat (0x10000 + 0x400 * (n - 0xD800) + (m - 0xDC00)) :: ·)
        else none
      | _ => none
    else if 0xDC00 ≤ n ∧ n < 0xE000 then none
    else (joinPieces ps).map (Char.ofNat n :: ·)

/-- The rest of a string after its opening quote. -/
def readString (text : List Char) : Option (Option String × List Char) :=
  (stringPieces text).map fun (ps, rest) => ((joinPieces ps).map String.ofList, rest)

/-! ## Numbers -/

/-- A numeral as documents write it: no leading zeros, and digits on both sides of a point. -/
def readNumeral (text : List Char) : Option (Decimal.Numeral × List Char) :=
  let (negative, text) := match text with
    | '-' :: r => (true, r)
    | r => (false, r)
  let (whole, text) := Decimal.run text
  if whole.isEmpty || (whole.head? == some '0' && whole.length != 1) then none
  else
    let afterPoint : Option (List Char × List Char) := match text with
      | '.' :: r => let (ds, rest) := Decimal.run r
        if ds.isEmpty then none else some (ds, rest)
      | r => some ([], r)
    match afterPoint with
    | none => none
    | some (fraction, text) =>
      match text with
      | c :: r =>
        if c = 'e' ∨ c = 'E' then
          (Decimal.exponent? r).map fun (e, rest) =>
            ({ negative, whole, fraction, exponent := some e }, rest)
        else some ({ negative, whole, fraction }, c :: r)
      | [] => some ({ negative, whole, fraction }, [])

/-- The number of a numeral. Without point and exponent it is an integer if it fits 64 bits, signed
when it is negative and unsigned otherwise; a negative zero is no integer. -/
def Number.ofNumeral? (n : Decimal.Numeral) : Option Number :=
  let v := Decimal.value n.whole
  let plain := n.fraction.isEmpty && n.exponent.isNone
  if plain && !n.negative && v < Decimal.wordLimit then some (.int v)
  else if plain && n.negative && 0 < v && 2 * v ≤ Decimal.wordLimit then some (.int (-v))
  else n.scaled?.map .float

/-! ## Documents -/

/-- Drops the white space of the grammar. -/
def skipSpace : List Char → List Char
  | [] => []
  | c :: text =>
    if c = ' ' ∨ c = '\n' ∨ c = '\t' ∨ c = '\r' then skipSpace text else c :: text

mutual

/-- One value and what follows it. The fuel bounds the steps; the length of the text is enough. -/
def readValue : Nat → List Char → Option (Raw × List Char)
  | 0, _ => none
  | fuel + 1, text =>
    match skipSpace text with
    | '\x7b' :: text =>
      match skipSpace text with
      | '\x7d' :: rest => some (.object [], rest)
      | text => (readEntries fuel text).map fun (es, rest) => (.object es, rest)
    | '[' :: text =>
      match skipSpace text with
      | ']' :: rest => some (.array [], rest)
      | text => (readItems fuel text).map fun (xs, rest) => (.array xs, rest)
    | '"' :: text => (readString text).map fun (s, rest) => (.string s, rest)
    | 'n' :: 'u' :: 'l' :: 'l' :: rest => some (.null, rest)
    | 't' :: 'r' :: 'u' :: 'e' :: rest => some (.bool true, rest)
    | 'f' :: 'a' :: 'l' :: 's' :: 'e' :: rest => some (.bool false, rest)
    | text => (readNumeral text).map fun (n, rest) => (.number (Number.ofNumeral? n), rest)

/-- At least one item, up to the closing bracket. -/
def readItems : Nat → List Char → Option (List Raw × List Char)
  | 0, _ => none
  | fuel + 1, text =>
    match readValue fuel text with
    | none => none
    | some (x, text) =>
      match skipSpace text with
      | ',' :: text => (readItems fuel text).map fun (xs, rest) => (x :: xs, rest)
      | ']' :: rest => some ([x], rest)
      | _ => none

/-- At least one entry, up to the closing brace. -/
def readEntries : Nat → List Char → Option (List (Option String × Raw) × List Char)
  | 0, _ => none
  | fuel + 1, text =>
    match skipSpace text with
    | '"' :: text =>
      match readString text with
      | none => none
      | some (key, text) =>
        match skipSpace text with
        | ':' :: text =>
          match readValue fuel text with
          | none => none
          | some (x, text) =>
            match skipSpace text with
            | ',' :: text => (readEntries fuel text).map fun (es, rest) => ((key, x) :: es, rest)
            | '\x7d' :: rest => some ([(key, x)], rest)
            | _ => none
        | _ => none
    | _ => none

end

/-- A whole text, white space around the value allowed. -/
def Raw.ofText? (s : String) : Option Raw :=
  let text := s.toList
  match readValue (text.length + 1) text with
  | some (raw, rest) => if (skipSpace rest).isEmpty then some raw else none
  | none => none

/-- A text is read by its characters. -/
theorem Raw.ofText?_ofList (text : List Char) : Raw.ofText? (.ofList text) =
    match readValue (text.length + 1) text with
    | some (raw, rest) => if (skipSpace rest).isEmpty then some raw else none
    | none => none := by
  rw [ofText?, String.toList_ofList]

/-! ## From the written form to documents and back -/

/-- How many sequences and objects may stand inside one another. -/
def depthLimit : Nat := 127

mutual

/-- The document of a written form: every number in range, every escape a character, and no more
than `levels` levels of nesting. Of a repeated key the first place and the last value remain. -/
def Raw.toJson? (levels : Nat) : Raw → Option Json
  | .null => some .null
  | .bool b => some (.bool b)
  | .number n => n.map .number
  | .string s => s.map .string
  | .array xs => if levels = 0 then none else (toItems? (levels - 1) xs).map .array
  | .object es =>
    if levels = 0 then none
    else (toEntries? (levels - 1) es).map fun es => .object (Entries.ofList es)

/-- The documents of a sequence. -/
def Raw.toItems? (levels : Nat) : List Raw → Option (List Json)
  | [] => some []
  | x :: xs =>
    match toJson? levels x, toItems? levels xs with
    | some x, some xs => some (x :: xs)
    | _, _ => none

/-- The entries of an object, repetitions included. -/
def Raw.toEntries? (levels : Nat) : List (Option String × Raw) → Option (List (String × Json))
  | [] => some []
  | (k, x) :: es =>
    match k, toJson? levels x, toEntries? levels es with
    | some k, some x, some es => some ((k, x) :: es)
    | _, _, _ => none

end

mutual

/-- The written form that a document has. -/
def Raw.ofJson : Json → Raw
  | .null => .null
  | .bool b => .bool b
  | .number n => .number (some n)
  | .string s => .string (some s)
  | .array xs => .array (ofItems xs)
  | .object es => .object (ofEntries es)

/-- The written forms of a sequence. -/
def Raw.ofItems : List Json → List Raw
  | [] => []
  | x :: xs => ofJson x :: ofItems xs

/-- The written forms of entries. -/
def Raw.ofEntries : List (String × Json) → List (Option String × Raw)
  | [] => []
  | (k, x) :: es => (some k, ofJson x) :: ofEntries es

end

/-- Reads a document. -/
def ofText? (s : String) : Option Json :=
  (Raw.ofText? s).bind (Raw.toJson? depthLimit)

end Json

end Flowchart
