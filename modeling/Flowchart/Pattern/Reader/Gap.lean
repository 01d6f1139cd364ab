import Flowchart.Text.Blank

/-!
# Gaps

Verbose patterns may have gaps of white space and comments between their signs. A comment runs from a
number sign to the end of its line.
-/

namespace Flowchart

namespace Pattern

namespace Reader

/-- Skips a gap; `comment` while inside a comment. -/
def skipGap : (comment : Bool) → List Char → List Char
  | _, [] => []
  | true, c :: text => skipGap (c ≠ '\n') text
  | false, c :: text =>
    if Text.isBlank c then skipGap false text
    else if c = '#' then skipGap true text
    else c :: text

/-- Skips a gap where there may be one. -/
def skip (verbose : Bool) (text : List Char) : List Char :=
  if verbose then skipGap false text else text

/-- The characters of a kind at the start of a text, and the rest; in a verbose pattern there may be
gaps around each. -/
def run (verbose : Bool) (p : Char → Bool) : (comment : Bool) → List Char → List Char × List Char
  | _, [] => ([], [])
  | true, c :: text => run verbose p (c ≠ '\n') text
  | false, c :: text =>
    if verbose && Text.isBlank c then run verbose p false text
    else if verbose && c == '#' then run verbose p true text
    else if p c then
      let (l, rest) := run verbose p false text
      (c :: l, rest)
    else ([], c :: text)

/-- The first sign after a hyphen in a class. A verbose pattern is looked through without an end of
comments: only the first number sign is passed over, and white space everywhere. -/
def peekPast (verbose : Bool) (text : List Char) : Option Char :=
  if verbose then
    let sign := match Text.skipBlank text with
      | '#' :: rest => Text.skipBlank rest
      | rest => rest
    (sign.head? <|> text.head?)
  else text.head?

end Reader

end Pattern

end Flowchart
