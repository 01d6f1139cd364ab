import Flowchart.Decimal.Shortest
import Flowchart.Json.Basic
import Flowchart.Text.Hex

/-!
# Documents as text

`compact` writes a document without any space, `pretty` with one entry a line and two spaces a
level. Both write the entries of an object in their order. Integers are written in decimal, binary
numbers as the shortest numeral that reads back.
-/

namespace Flowchart

namespace Json

/-- Numbers are written positionally from `1e-5` up to, but not including, `1e16`. -/
def numberLayout : Binary64.Layout := { least := -5, greatest := 15 }

/-- The text of a binary number; it always shows that it is no integer. -/
def floatChars (x : Binary64) : List Char :=
  let sign := if x.negative then ['-'] else []
  if x.isZero then sign ++ ['0', '.', '0'] else sign ++ x.shortest.render numberLayout

/-- The text of a number. -/
def Number.chars : Number → List Char
  | .int i => Decimal.ofInt i
  | .float x => floatChars x

/-- A character inside quotes: quotes, backslashes and control characters are escaped. -/
def escaped (c : Char) : List Char :=
  if c = '"' then ['\\', '"']
  else if c = '\\' then ['\\', '\\']
  else if c = '\n' then ['\\', 'n']
  else if c = '\r' then ['\\', 'r']
  else if c = '\t' then ['\\', 't']
  else if c = '\x08' then ['\\', 'b']
  else if c = '\x0c' then ['\\', 'f']
  else if c.toNat < 32 then ['\\', 'u', '0', '0', Text.hexDigit (Text.lastHex (c.toNat / 16)),
      Text.hexDigit (Text.lastHex c.toNat)]
  else [c]

/-- A text in quotes. -/
def quotedChars (s : String) : List Char :=
  '"' :: (s.toList.flatMap escaped ++ ['"'])

mutual

/-- The document in one line without spaces. -/
def compactChars : Json → List Char
  | .null => ['n', 'u', 'l', 'l']
  | .bool true => ['t', 'r', 'u', 'e']
  | .bool false => ['f', 'a', 'l', 's', 'e']
  | .number n => n.chars
  | .string s => quotedChars s
  | .array [] => ['[', ']']
  | .array (x :: xs) => '[' :: (compactChars x ++ compactItems xs)
  | .object [] => ['\x7b', '\x7d']
  | .object ((k, x) :: es) =>
    '\x7b' :: (quotedChars k ++ ':' :: (compactChars x ++ compactEntries es))

/-- The items after the first one, with the closing bracket. -/
def compactItems : List Json → List Char
  | [] => [']']
  | x :: xs => ',' :: (compactChars x ++ compactItems xs)

/-- The entries after the first one, with the closing brace. -/
def compactEntries : List (String × Json) → List Char
  | [] => ['\x7d']
  | (k, x) :: es => ',' :: (quotedChars k ++ ':' :: (compactChars x ++ compactEntries es))

end

/-- The document in one line without spaces. -/
def compact (j : Json) : String :=
  String.ofList j.compactChars

/-- A new line at a level of nesting. -/
def newLine (level : Nat) : List Char :=
  '\n' :: List.replicate (2 * level) ' '

mutual

/-- The document over several lines, its first one already indented. -/
def prettyChars (level : Nat) : Json → List Char
  | .array (x :: xs) =>
    '[' :: (newLine (level + 1) ++ prettyChars (level + 1) x ++ prettyItems level xs)
  | .object ((k, x) :: es) =>
    '\x7b' :: (newLine (level + 1) ++ quotedChars k ++ ':' :: ' ' ::
      (prettyChars (level + 1) x ++ prettyEntries level es))
  | .null => ['n', 'u', 'l', 'l']
  | .bool true => ['t', 'r', 'u', 'e']
  | .bool false => ['f', 'a', 'l', 's', 'e']
  | .number n => n.chars
  | .string s => quotedChars s
  | .array [] => ['[', ']']
  | .object [] => ['\x7b', '\x7d']

/-- The items after the first one and the closing bracket. -/
def prettyItems (level : Nat) : List Json → List Char
  | [] => newLine level ++ [']']
  | x :: xs => ',' :: (newLine (level + 1) ++ prettyChars (level + 1) x ++ prettyItems level xs)

/-- The entries after the first one and the closing brace. -/
def prettyEntries (level : Nat) : List (String × Json) → List Char
  | [] => newLine level ++ ['\x7d']
  | (k, x) :: es =>
    ',' :: (newLine (level + 1) ++ quotedChars k ++ ':' :: ' ' ::
      (prettyChars (level + 1) x ++ prettyEntries level es))

end

/-- The document over several lines, two spaces a level, without a final line break. -/
def pretty (j : Json) : String :=
  String.ofList (j.prettyChars 0)

/-- The text a value is shown as: null is empty, texts are themselves, all else is compact. -/
def display : Json → String
  | .null => ""
  | .string s => s
  | j => j.compact

end Json

end Flowchart
