import Flowchart.Unicode.Property.Set

/-!
# Breaks between graphemes

What a character does to the limits of graphemes, the units that a reader sees as one character.
Characters of no kind stand alone.
-/

namespace Flowchart

namespace Unicode

/-- The part that a character plays in a grapheme. -/
inductive GraphemeBreak where
  /-- Carriage return. -/
  | carriageReturn
  /-- Line feed. -/
  | lineFeed
  /-- Controls, which stand alone. -/
  | control
  /-- Marks that belong to the character before them. -/
  | extend
  /-- Marks with a width of their own. -/
  | spacingMark
  /-- Characters that belong to the one after them. -/
  | prepend
  /-- Halves of flags. -/
  | regionalIndicator
  /-- The zero width joiner. -/
  | joiner
  /-- Leading consonants of Hangul. -/
  | leading
  /-- Vowels of Hangul. -/
  | vowel
  /-- Trailing consonants of Hangul. -/
  | trailing
  /-- Syllables of Hangul that end with a vowel. -/
  | openSyllable
  /-- Syllables of Hangul that end with a consonant. -/
  | closedSyllable
deriving DecidableEq

namespace GraphemeBreak

/-- The kinds with their names. -/
def named : List (GraphemeBreak × List String) :=
  [(carriageReturn, ["CR"]), (lineFeed, ["LF"]), (control, ["CN", "Control"]),
   (extend, ["EX", "Extend"]), (spacingMark, ["SM", "SpacingMark"]), (prepend, ["PP", "Prepend"]),
   (regionalIndicator, ["RI", "Regional_Indicator"]), (joiner, ["ZWJ"]), (leading, ["L"]),
   (vowel, ["V"]), (trailing, ["T"]), (openSyllable, ["LV"]), (closedSyllable, ["LVT"])]

/-- Characters that are used as tags, although they are format characters. -/
def tags : CharSet :=
  .ofTable "E0020-E007F"

/-- The syllables of Hangul that end with a vowel: every 28th one. -/
def openSyllables : CharSet :=
  .ofCodes ((List.range 399).map fun i => 0xAC00 + 28 * i)

/-- The characters of a kind. -/
def set : GraphemeBreak → CharSet
  | carriageReturn => .ofTable "D"
  | lineFeed => .ofTable "A"
  | control =>
    ((Category.sets [.lineSeparator, .paragraphSeparator, .control, .format]).union
      (Category.unassigned.set.inter (Property.set .defaultIgnorableCodePoint))).diff
        (((CharSet.ofTable "A D 200C-200D").union (Property.listed .prependedConcatenationMark)).union
          tags)
  | extend =>
    ((Property.set .graphemeExtend).union (Property.set .emojiModifier)).diff (.ofTable "200D")
  | spacingMark =>
    ((Category.spacingMark.set.diff (Property.set .graphemeExtend)).union (.ofTable "E33 EB3")).diff
      (.ofTable
        "102B-102C 1038 1062-1064 1067-106D 1083 1087-108C 108F 109A-109C 1A61 1A63-1A64 AA7B AA7D
         11720-11721")
  | prepend =>
    (Property.listed .prependedConcatenationMark).union
      (.ofTable "D4E 111C2-111C3 113D1 1193F 11941 11A3A 11A84-11A89 11D46 11F02")
  | regionalIndicator => Property.set .regionalIndicator
  | joiner => .ofTable "200D"
  | leading => .ofTable "1100-115F A960-A97C"
  | vowel => .ofTable "1160-11A7 D7B0-D7C6 16D63 16D67-16D6A"
  | trailing => .ofTable "11A8-11FF D7CB-D7FB"
  | openSyllable => openSyllables
  | closedSyllable => (CharSet.ofTable "AC00-D7A3").diff openSyllables

end GraphemeBreak

end Unicode

end Flowchart
