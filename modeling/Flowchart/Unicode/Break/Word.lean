import Flowchart.Unicode.Break.Grapheme
import Flowchart.Unicode.Script

/-!
# Breaks between words

What a character does to the limits of words. Letters of scripts that are written without spaces are
of no kind, for their words are found with a dictionary.
-/

namespace Flowchart

namespace Unicode

/-- The part that a character plays in a word. -/
inductive WordBreak where
  /-- Carriage return. -/
  | carriageReturn
  /-- Line feed. -/
  | lineFeed
  /-- Other ends of lines. -/
  | newline
  /-- Marks that belong to the character before them. -/
  | extend
  /-- The zero width joiner. -/
  | joiner
  /-- Format characters. -/
  | format
  /-- Halves of flags. -/
  | regionalIndicator
  /-- Katakana and its signs. -/
  | katakana
  /-- Letters of Hebrew. -/
  | hebrewLetter
  /-- Letters of alphabets and of syllabaries. -/
  | letter
  /-- The single quotation mark. -/
  | singleQuote
  /-- The double quotation mark. -/
  | doubleQuote
  /-- Signs within words and within numbers. -/
  | middle
  /-- Signs within words. -/
  | middleOfWord
  /-- Signs within numbers. -/
  | middleOfNumber
  /-- Digits. -/
  | numeric
  /-- Signs that join words and numbers. -/
  | connector
  /-- Spaces that stay together. -/
  | space
deriving DecidableEq

namespace WordBreak

/-- The kinds with their names. -/
def named : List (WordBreak × List String) :=
  [(carriageReturn, ["CR"]), (lineFeed, ["LF"]), (newline, ["NL", "Newline"]),
   (extend, ["Extend"]), (joiner, ["ZWJ"]), (format, ["FO", "Format"]),
   (regionalIndicator, ["RI", "Regional_Indicator"]), (katakana, ["KA", "Katakana"]),
   (hebrewLetter, ["HL", "Hebrew_Letter"]), (letter, ["LE", "ALetter"]),
   (singleQuote, ["SQ", "Single_Quote"]), (doubleQuote, ["DQ", "Double_Quote"]),
   (middle, ["MB", "MidNumLet"]), (middleOfWord, ["ML", "MidLetter"]),
   (middleOfNumber, ["MN", "MidNum"]), (numeric, ["NU", "Numeric"]),
   (connector, ["EX", "ExtendNumLet"]), (space, ["WSegSpace"])]

/-- The characters of a script. -/
def ofScript (code : String) : CharSet :=
  .unions ((Script.all.filter (·.code == code)).map (·.set))

/-- Marks that belong to the character before them. -/
def extendSet : CharSet :=
  (((Property.set .graphemeExtend).union Category.spacingMark.set).union
    (Property.set .emojiModifier)).diff (.ofTable "200D")

/-- Digits, the signs in front of numbers, and the Arabic decimal mark. -/
def numericSet : CharSet :=
  Category.decimalNumber.set.union (.ofTable "600-605 66B 6DD 890-891 8E2 19DA 110BD 110CD")

/-- Katakana and the signs that are used with it. -/
def katakanaSet : CharSet :=
  (ofScript "Kana").union (.ofTable "3031-3035 309B-309C 30A0 30FC FF70")

/-- Letters of Hebrew. -/
def hebrewSet : CharSet :=
  (ofScript "Hebr").inter Category.otherLetter.set

/-- Modifiers and signs that are part of words, although they are not alphabetic. -/
def wordSigns : CharSet :=
  .ofTable
    "2C2-2C5 2D2-2D7 2DE-2DF 2E5-2EB 2ED 2EF-2FF 55A-55C 55E 58A 5F3 70F A708-A716 A720-A721
     A789-A78A AB5B"

/-- Letters of scripts that are written without spaces. -/
def unspaced : CharSet :=
  .ofTable
    "E01-E30 E32-E33 E40-E46 E81-E82 E84 E86-E8A E8C-EA3 EA5 EA7-EB0 EB2-EB3 EBD EC0-EC4 EC6
     EDC-EDF 1000-102A 103F 1050-1055 105A-105D 1061 1065-1066 106E-1070 1075-1081 108E 1780-17B3
     17D7 17DC 1950-196D 1970-1974 1980-19AB 19B0-19C9 1A20-1A54 1AA7 A9E0-A9E4 A9E6-A9EF
     A9FA-A9FE AA60-AA76 AA7A AA7E-AAAF AAB1 AAB5-AAB6 AAB9-AABD AAC0 AAC2 AADB-AADD 11700-1171A
     11740-11746"

/-- Letters of alphabets and of syllabaries. -/
def letterSet : CharSet :=
  ((Property.set .alphabetic).union wordSigns).diff
    (.unions [Property.set .ideographic, katakanaSet, ofScript "Hira", hebrewSet, extendSet,
      unspaced])

/-- The characters of a kind. -/
def set : WordBreak → CharSet
  | carriageReturn => .ofTable "D"
  | lineFeed => .ofTable "A"
  | newline => .ofTable "B-C 85 2028-2029"
  | extend => extendSet
  | joiner => .ofTable "200D"
  | format =>
    Category.format.set.diff
      (((CharSet.ofTable "70F 200B-200D").union numericSet).union GraphemeBreak.tags)
  | regionalIndicator => Property.set .regionalIndicator
  | katakana => katakanaSet
  | hebrewLetter => hebrewSet
  | letter => letterSet
  | singleQuote => .ofTable "27"
  | doubleQuote => .ofTable "22"
  | middle => .ofTable "2E 2018-2019 2024 FE52 FF07 FF0E"
  | middleOfWord => .ofTable "3A B7 387 55F 5F4 2027 FE13 FE55 FF1A"
  | middleOfNumber => .ofTable "2C 3B 37E 589 60C-60D 66C 7F8 2044 FE50 FE54 FF0C FF1B"
  | numeric => numericSet
  | connector => Category.connectorPunctuation.set.union (.ofTable "202F")
  | space => .ofTable "20 1680 2000-2006 2008-200A 205F 3000"

end WordBreak

end Unicode

end Flowchart
