import Flowchart.Text.Blank
import Flowchart.Unicode.Category
import Flowchart.Unicode.Folding
import Flowchart.Unicode.Property

/-!
# The characters with a property

Most properties are listed. The others follow from general categories, from listed properties and from
each other, by the rules of the standard, with a few characters more or less.
-/

namespace Flowchart

namespace Unicode

namespace Property

open Category

/-- The characters that a table lists for a property. -/
def listed (p : Property) : CharSet :=
  .ofTable p.table

/-! ## Letters -/

/-- Small letters. -/
def lowercaseSet : CharSet :=
  lowercaseLetter.set.union (listed .otherLowercase)

/-- Capital letters. -/
def uppercaseSet : CharSet :=
  uppercaseLetter.set.union (listed .otherUppercase)

/-- Letters of any case. -/
def casedSet : CharSet :=
  (lowercaseSet.union uppercaseSet).union titlecaseLetter.set

/-- Letters and what counts as one. -/
def alphabeticSet : CharSet :=
  ((lowercaseSet.union uppercaseSet).union
    (sets [titlecaseLetter, modifierLetter, otherLetter, letterNumber])).union
      (listed .otherAlphabetic)

/-- What stands between letters of one case without changing it. -/
def caseIgnorableSet : CharSet :=
  (sets [nonspacingMark, enclosingMark, format, modifierLetter, modifierSymbol]).union
    (.ofTable "27 2E 3A B7 387 55F 5F4 2018-2019 2024 2027 FE13 FE52 FE55 FF07 FF0E FF1A")

/-! ## Changes of case -/

/-- Characters with a small form. -/
def changesWhenLowercasedSet : CharSet :=
  ((uppercaseSet.inter Folding.cased).union titlecaseLetter.set).union (.ofTable "130")

/-- Characters with a capital form; some of these forms have several letters. -/
def changesWhenUppercasedSet : CharSet :=
  ((lowercaseSet.inter Folding.cased).union titlecaseLetter.set).union
    (.ofTable
      "131 149 1F0 587 1E96-1E9A 1F50 1F52 1F54 1F56 1FB2 1FB4 1FB6-1FB7 1FC2 1FC4 1FC6-1FC7
       1FD2 1FD6-1FD7 1FE2 1FE4 1FE6-1FE7 1FF2 1FF4 1FF6-1FF7 FB00-FB04 FB13-FB17")

/-- Characters with a form for the start of a title. -/
def changesWhenTitlecasedSet : CharSet :=
  (changesWhenUppercasedSet.union (.ofTable "1C4 1C7 1CA 1F1")).diff
    (.ofTable
      "1C5 1C8 1CB 1F2 10D0-10FA 10FD-10FF 1F88-1F8F 1F98-1F9F 1FA8-1FAF 1FBC 1FCC 1FFC")

/-- Characters that differ from the form in which texts are compared without case. -/
def changesWhenCasefoldedSet : CharSet :=
  (changesWhenLowercasedSet.union
    (.ofTable
      "B5 DF 149 17F 345 3C2 3D0-3D1 3D5-3D6 3F0-3F1 3F5 587 13F8-13FD 1C80-1C88 1E9A-1E9B
       1F80-1F87 1F90-1F97 1FA0-1FA7 1FB2-1FB4 1FB7 1FC2-1FC4 1FC7 1FF2-1FF4 1FF7 AB70-ABBF
       FB00-FB06 FB13-FB17")).diff (.ofTable "13A0-13F5")

/-! ## Names in programs -/

/-- What patterns give a meaning to. -/
def patternSet : CharSet :=
  (listed .patternSyntax).union (listed .patternWhiteSpace)

/-- What a name may start with. -/
def idStartSet : CharSet :=
  ((sets [uppercaseLetter, lowercaseLetter, titlecaseLetter, modifierLetter, otherLetter,
    letterNumber]).union (listed .otherIDStart)).diff patternSet

/-- What a name may go on with. -/
def idContinueSet : CharSet :=
  ((idStartSet.union
    (sets [nonspacingMark, spacingMark, decimalNumber, connectorPunctuation])).union
      (listed .otherIDContinue)).diff patternSet

/-- Characters that may be part of a name until the text is normalized. -/
def unstableSet : CharSet :=
  .ofTable "37A 309B-309C FC5E-FC63 FDFA-FDFB FE70 FE72 FE74 FE76 FE78 FE7A FE7C FE7E"

/-- Characters that may start a name until the text is normalized. -/
def unstableStartSet : CharSet :=
  unstableSet.union (.ofTable "E33 EB3 FF9E-FF9F")

/-! ## Marks and what is not seen -/

/-- Marks that belong to the character before them. -/
def graphemeExtendSet : CharSet :=
  (sets [nonspacingMark, enclosingMark]).union (listed .otherGraphemeExtend)

/-- Everything else that is assigned and seen. -/
def graphemeBaseSet : CharSet :=
  ((sets [control, format, privateUse, unassigned, lineSeparator, paragraphSeparator]).union
    graphemeExtendSet).complement

/-- Characters that are left out where they are not supported. -/
def defaultIgnorableSet : CharSet :=
  (((listed .otherDefaultIgnorableCodePoint).union format.set).union
    (listed .variationSelector)).diff
      ((CharSet.ofTable "FFF9-FFFB 13430-13440").union (listed .prependedConcatenationMark))

/-- The characters with a property. -/
def set : Property → CharSet
  | alphabetic => alphabeticSet
  | caseIgnorable => caseIgnorableSet
  | cased => casedSet
  | changesWhenCasefolded => changesWhenCasefoldedSet
  | changesWhenCasemapped =>
    (changesWhenLowercasedSet.union changesWhenUppercasedSet).union changesWhenTitlecasedSet
  | changesWhenLowercased => changesWhenLowercasedSet
  | changesWhenTitlecased => changesWhenTitlecasedSet
  | changesWhenUppercased => changesWhenUppercasedSet
  | defaultIgnorableCodePoint => defaultIgnorableSet
  | graphemeBase => graphemeBaseSet
  | graphemeExtend => graphemeExtendSet
  | idContinue => idContinueSet
  | idStart => idStartSet
  | lowercase => lowercaseSet
  | math => mathSymbol.set.union (listed .otherMath)
  | uppercase => uppercaseSet
  | whiteSpace => .ofRanges Text.blankRanges
  | xidContinue => idContinueSet.diff unstableSet
  | xidStart => idStartSet.diff unstableStartSet
  | p => listed p

end Property

end Unicode

end Flowchart
