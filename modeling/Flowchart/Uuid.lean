import Flowchart.Text.Hex

/-!
# Identifiers

An identifier is 32 hexadecimal digits. It is written in five groups with hyphens and in lower case,
and read in that form, without hyphens, in braces or after `urn:uuid:`, in either case.
-/

namespace Flowchart

/-- An identifier of 128 bits, as its 32 hexadecimal digits. -/
structure Uuid where
  /-- The digits. -/
  digits : List (Fin 16)
  /-- There are 32 of them. -/
  length_eq : digits.length = 32 := by simp
deriving DecidableEq

namespace Uuid

/-- The identifier whose digits are all zero. -/
def nil : Uuid where
  digits := List.replicate 32 (Text.lastHex 0)

instance : Inhabited Uuid := ⟨nil⟩

/-- How many digits the groups of the written form have. -/
def groups : List Nat := [8, 4, 4, 4, 12]

/-- Writes hyphens between groups of the given sizes. -/
def hyphenate : List Nat → List Char → List Char
  | [], ds => ds
  | [_], ds => ds
  | n :: m :: ns, ds => ds.take n ++ '-' :: hyphenate (m :: ns) (ds.drop n)

/-- Takes the hyphens between groups of the given sizes out; none when the groups differ. -/
def unhyphenate? : List Nat → List Char → Option (List Char)
  | [], text => if text.isEmpty then some [] else none
  | [n], text => if text.length = n then some text else none
  | n :: m :: ns, text =>
    match text.drop n with
    | '-' :: rest => (unhyphenate? (m :: ns) rest).map (text.take n ++ ·)
    | _ => none

/-- The identifier with these 32 digits. -/
def ofDigits? (ds : List Char) : Option Uuid :=
  match ds.mapM Text.hexValue? with
  | some digits => if h : digits.length = 32 then some { digits, length_eq := h } else none
  | none => none

/-- The written form: lower case, with hyphens. -/
def toChars (u : Uuid) : List Char :=
  hyphenate groups (u.digits.map Text.hexDigit)

/-- The written form: lower case, with hyphens. -/
def toText (u : Uuid) : String :=
  String.ofList u.toChars

/-- Reads an identifier with hyphens. -/
def ofHyphenated? (text : List Char) : Option Uuid :=
  (unhyphenate? groups text).bind ofDigits?

/-- Reads an identifier in any of its accepted forms. -/
def ofChars? : List Char → Option Uuid
  | '\x7b' :: text =>
    if text.getLast? = some '\x7d' then ofHyphenated? text.dropLast else none
  | 'u' :: 'r' :: 'n' :: ':' :: 'u' :: 'u' :: 'i' :: 'd' :: ':' :: text => ofHyphenated? text
  | text => if text.length = 32 then ofDigits? text else ofHyphenated? text

/-- Reads an identifier in any of its accepted forms. -/
def ofText? (s : String) : Option Uuid :=
  ofChars? s.toList

/-- The digit at a place of a random identifier. Two places tell how it was made. -/
def randomDigit (seed place : Nat) : Fin 16 :=
  let digit := seed / Nat.pow 16 place
  if place = 12 then Text.lastHex 4
  else if place = 16 then Text.lastHex (8 + digit % 4)
  else Text.lastHex digit

/-- The random identifier that a number makes. -/
def random (seed : Nat) : Uuid where
  digits := (List.range 32).map (randomDigit seed)

end Uuid

/-- A source of fresh identifiers, and how many were drawn from it. -/
structure IdSource where
  /-- The identifiers in the order in which they are drawn. -/
  stream : Nat → Uuid
  /-- How many were drawn. -/
  drawn : Nat := 0

namespace IdSource

/-- The random identifiers from a number on. -/
def random (seed : Nat) : IdSource where
  stream n := .random (seed + n)

/-- The next identifier. -/
def next (s : IdSource) : Uuid :=
  s.stream s.drawn

/-- The source after `n` identifiers more. -/
def skip (s : IdSource) (n : Nat) : IdSource :=
  { s with drawn := s.drawn + n }

/-- The identifiers to come. -/
def ahead (s : IdSource) (n : Nat) : Uuid :=
  s.stream (s.drawn + n)

end IdSource

end Flowchart
