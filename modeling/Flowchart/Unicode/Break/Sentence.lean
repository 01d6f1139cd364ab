import Flowchart.Unicode.Break.Word

/-!
# Breaks between sentences

What a character does to the limits of sentences.
-/

namespace Flowchart

namespace Unicode

/-- The part that a character plays in a sentence. -/
inductive SentenceBreak where
  /-- Carriage return. -/
  | carriageReturn
  /-- Line feed. -/
  | lineFeed
  /-- Other ends of paragraphs. -/
  | separator
  /-- Marks that belong to the character before them. -/
  | extend
  /-- Format characters. -/
  | format
  /-- Spaces. -/
  | space
  /-- Small letters. -/
  | lower
  /-- Capital letters. -/
  | upper
  /-- Letters without case. -/
  | letter
  /-- Digits. -/
  | numeric
  /-- Full stops, which may end an abbreviation too. -/
  | fullStop
  /-- Other ends of sentences. -/
  | terminator
  /-- Brackets and quotation marks. -/
  | closing
  /-- Signs after which a sentence goes on. -/
  | continuation
deriving DecidableEq

namespace SentenceBreak

/-- The kinds with their names. -/
def named : List (SentenceBreak × List String) :=
  [(carriageReturn, ["CR"]), (lineFeed, ["LF"]), (separator, ["SE", "Sep"]),
   (extend, ["EX", "Extend"]), (format, ["FO", "Format"]), (space, ["Sp"]), (lower, ["LO", "Lower"]),
   (upper, ["UP", "Upper"]), (letter, ["LE", "OLetter"]), (numeric, ["NU", "Numeric"]),
   (fullStop, ["AT", "ATerm"]), (terminator, ["ST", "STerm"]), (closing, ["CL", "Close"]),
   (continuation, ["SC", "SContinue"])]

/-- Marks that belong to the character before them, and the two joiners. -/
def extendSet : CharSet :=
  ((Property.set .graphemeExtend).union Category.spacingMark.set).union (.ofTable "200D")

/-- The capitals of Georgian, which do not start a sentence. -/
def georgianCapitals : CharSet :=
  .ofTable "1C90-1CBA 1CBD-1CBF"

/-- Small letters; those of Georgian have no case here. -/
def lowerSet : CharSet :=
  (Property.set .lowercase).diff
    ((Property.set .graphemeExtend).union (.ofTable "10D0-10FA 10FD-10FF"))

/-- Capital letters and those of titles. -/
def upperSet : CharSet :=
  (Category.titlecaseLetter.set.union (Property.set .uppercase)).diff georgianCapitals

/-- Full stops. -/
def fullStops : CharSet :=
  .ofTable "2E 2024 FE52 FF0E"

/-- The characters of a kind. -/
def set : SentenceBreak → CharSet
  | carriageReturn => .ofTable "D"
  | lineFeed => .ofTable "A"
  | separator => .ofTable "85 2028-2029"
  | extend => extendSet
  | format =>
    Category.format.set.diff
      (((CharSet.ofTable "200C-200D").union WordBreak.numericSet).union GraphemeBreak.tags)
  | space => (Property.set .whiteSpace).diff (.ofTable "A D 85 2028-2029")
  | lower => lowerSet
  | upper => upperSet
  | letter =>
    ((Property.set .alphabetic).union (.ofTable "5F3")).diff
      ((lowerSet.union upperSet).union extendSet)
  | numeric => WordBreak.numericSet.union (.ofTable "66C")
  | fullStop => fullStops
  | terminator => (Property.set .sentenceTerminal).diff fullStops
  | closing =>
    (Category.sets [.openPunctuation, .closePunctuation, .initialPunctuation,
      .finalPunctuation]).union
        (.ofTable "22 27 275B-2760 2E00-2E01 2E06-2E08 2E0B 1F676-1F678")
  | continuation =>
    .ofTable
      "2C-2D 3A-3B 37E 55D 60C-60D 7F8 1802 1808 2013-2014 3001 FE10-FE11 FE13-FE14 FE31-FE32
       FE50-FE51 FE54-FE55 FE58 FE63 FF0C-FF0D FF1A-FF1B FF64"

end SentenceBreak

end Unicode

end Flowchart
