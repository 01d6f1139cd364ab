import Flowchart.Decimal.Digits
import Flowchart.Pattern.Reader.Gap
import Flowchart.Pattern.Written
import Flowchart.Text.Hex

/-!
# Escapes

What a backslash starts: characters given by number, sets of Unicode, classes with a letter of their
own, and conditions. Digits are refused, for there is no referring back.
-/

namespace Flowchart

namespace Pattern

namespace Reader

/-- What an escape stands for. -/
inductive Atom where
  /-- A character. -/
  | letter (l : Letter)
  /-- A class with a letter of its own. -/
  | shorthand (kind : Shorthand) (negated : Bool)
  /-- A set of Unicode. -/
  | unicode (query : Query) (negated : Bool)
  /-- A condition on the place. -/
  | anchor (a : Anchor)

/-! ## Characters by number -/

/-- The character with a number, if there is one. -/
def charOf? (n : Nat) : Option Char :=
  if h : n.isValidChar then some (Char.ofNatAux n h) else none

/-- A hexadecimal digit. -/
def isHex (c : Char) : Bool :=
  (Text.hexValue? c).isSome

/-- Reads a fixed count of hexadecimal digits. -/
def readHex (verbose : Bool) : Nat → List Char → Option (List Char × List Char)
  | 0, text => some ([], text)
  | n + 1, c :: text =>
    if isHex c then (readHex verbose n (skip verbose text)).map fun (ds, rest) => (c :: ds, rest)
    else none
  | _ + 1, [] => none

/-- The character with a number in hexadecimal digits, of which there is at least one. -/
def letterOf? (isByte : Bool) (ds : List Char) : Option Letter :=
  if ds.isEmpty then none
  else (Text.hexNumber? ds).bind fun n => (charOf? n).map fun c => { char := c, isByte }

/-- Reads the number of a character: in braces or with a fixed count of digits. -/
def readCode (verbose : Bool) (width : Nat) (text : List Char) : Option (Atom × List Char) :=
  match skip verbose text with
  | '\x7b' :: text =>
    match run verbose isHex false text with
    | (ds, '\x7d' :: rest) => (letterOf? false ds).map fun l => (.letter l, skip verbose rest)
    | _ => none
  | text =>
    (readHex verbose width text).bind fun (ds, rest) =>
      (letterOf? (width = 2) ds).map fun l => (.letter l, rest)

/-! ## Sets of Unicode -/

/-- Cuts a name at a mark of two characters. -/
def cutAtPair? (c d : Char) : List Char → Option (List Char × List Char)
  | a :: b :: text =>
    if a = c ∧ b = d then some ([], text)
    else (cutAtPair? c d (b :: text)).map fun (l, r) => (a :: l, r)
  | _ => none

/-- What a text between braces asks for. Inequality is looked for first, then a colon, then an equals
sign. -/
def queryOf (text : List Char) : Query :=
  match cutAtPair? '!' '=' text with
  | some (p, v) => .value true p v
  | none =>
    match Text.cutAt? ':' text <|> Text.cutAt? '=' text with
    | some (p, v) => .value false p v
    | none => .name text

/-- Reads the set after `p`, or after `P` for everything else. -/
def readQuery (verbose : Bool) (negated : Bool) (text : List Char) : Option (Atom × List Char) :=
  match skip verbose text with
  | '\x7b' :: text =>
    match run verbose (· ≠ '\x7d') false text with
    | (name, '\x7d' :: rest) => some (.unicode (queryOf name) negated, rest)
    | _ => none
  | '\\' :: _ | [] => none
  | c :: rest => some (.unicode (.name [c]) negated, rest)

/-! ## Edges of words -/

/-- The kinds of edges that are written in braces. -/
def edgeKinds : List (String × Anchor) :=
  [("start", .wordStart), ("end", .wordEnd), ("start-half", .noWordBefore),
   ("end-half", .noWordAfter)]

/-- A letter or a hyphen. -/
def isKindChar (c : Char) : Bool :=
  c.isAlpha || c == '-'

/-- Reads what may follow the sign of an edge: its kind in braces. Braces that do not start like a
kind are left alone. -/
def readEdge (verbose : Bool) (text : List Char) : Option (Atom × List Char) :=
  match text with
  | '\x7b' :: inner =>
    match skip verbose inner with
    | [] => none
    | c :: _ =>
      if isKindChar c then
        match run verbose isKindChar false inner with
        | (kind, '\x7d' :: rest) =>
          (edgeKinds.lookup (String.ofList kind)).map fun a => (.anchor a, rest)
        | _ => none
      else some (.anchor .edge, text)
  | _ => some (.anchor .edge, text)

/-! ## Escapes -/

/-- The characters that patterns give a meaning to. -/
def isMeta (c : Char) : Bool :=
  "\\.+*?()|[]\x7b\x7d^$#&-~".toList.contains c

/-- The character may follow a backslash and then stands for itself. -/
def standsForItself (c : Char) : Bool :=
  isMeta c || (c.toNat < 128 && !c.isAlphanum && c != '<' && c != '>')

/-- Control characters with a letter. -/
def controls : List (Char × Char) :=
  [('a', '\x07'), ('f', '\x0c'), ('t', '\t'), ('n', '\n'), ('r', '\r'), ('v', '\x0b')]

/-- Classes with a letter; the capital stands for all other characters. -/
def shorthands : List (Char × Shorthand × Bool) :=
  [('d', .digit, false), ('D', .digit, true), ('s', .space, false), ('S', .space, true),
   ('w', .word, false), ('W', .word, true)]

/-- Conditions with a sign. -/
def anchors : List (Char × Anchor) :=
  [('A', .textStart), ('z', .textEnd), ('B', .noEdge), ('<', .wordStart), ('>', .wordEnd)]

/-- Reads what follows a backslash. -/
def readEscape (verbose : Bool) : List Char → Option (Atom × List Char)
  | [] => none
  | 'x' :: text => readCode verbose 2 text
  | 'u' :: text => readCode verbose 4 text
  | 'U' :: text => readCode verbose 8 text
  | 'p' :: text => readQuery verbose false text
  | 'P' :: text => readQuery verbose true text
  | 'b' :: text => readEdge verbose text
  | c :: text =>
    match shorthands.lookup c, anchors.lookup c, controls.lookup c with
    | some (kind, negated), _, _ => some (.shorthand kind negated, text)
    | none, some a, _ => some (.anchor a, text)
    | none, none, some d => some (.letter { char := d }, text)
    | none, none, none =>
      if standsForItself c then some (.letter { char := c }, text) else none

end Reader

end Pattern

end Flowchart
