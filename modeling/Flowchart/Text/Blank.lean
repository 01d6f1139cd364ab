import Flowchart.Text.Search

/-!
# White space

`isBlank` is the Unicode property `White_Space`. Format characters such as U+200B and U+FEFF do not
have it, so they survive trimming and count as contents.
-/

namespace Flowchart

namespace Text

/-- The code points of the Unicode property `White_Space`. -/
def blankRanges : List (Nat × Nat) :=
  [(9, 13), (0x20, 0x20), (0x85, 0x85), (0xA0, 0xA0), (0x1680, 0x1680), (0x2000, 0x200A),
    (0x2028, 0x2029), (0x202F, 0x202F), (0x205F, 0x205F), (0x3000, 0x3000)]

/-- The Unicode property `White_Space`. -/
def isBlank (c : Char) : Bool :=
  blankRanges.any fun r => r.1 ≤ c.toNat && c.toNat ≤ r.2

/-- The text without the white space at its ends. -/
def trim (s : String) : String :=
  String.ofList (trimBy isBlank s.toList)

/-- Nothing but white space. -/
def allBlank (s : String) : Bool :=
  s.toList.all isBlank

/-- The rest after leading white space. -/
def skipBlank (text : List Char) : List Char :=
  text.dropWhile isBlank

end Text

end Flowchart
