import Flowchart.Unicode.Property.Set

/-!
# Characters of the newest version

The version after the one of the tables adds characters and changes none. What is asked of the newest
version is asked of the tables and of these additions together.
-/

namespace Flowchart

namespace Unicode

namespace Newest

/-- The new letters, with the vowel signs and marks that count as alphabetic. -/
def letters : CharSet :=
  .ofTable
    "88F C5C CDC A7CE-A7CF A7D2 A7D4 A7F1 10940-10959 10EC5-10EC7 10EFA-10EFB 11B60-11B67
     11DB0-11DDB 16EA0-16EB8 16EBB-16ED3 16FF2-16FF6 187F8-187FF 18D09-18D1E 18D80-18DF2
     1E6C0-1E6DE 1E6E0-1E6F5 1E6FE-1E6FF 2B73A-2B73F 2CEA2-2CEAD 323B0-33479"

/-- The new marks that are not alphabetic. -/
def marks : CharSet :=
  .ofTable "1ACF-1ADD 1AE0-1AEB"

/-- The new digits. -/
def digits : CharSet :=
  .ofTable "11DE0-11DE9"

/-- The new signs. -/
def signs : CharSet :=
  .ofTable
    "20C1 2B96 FBC3-FBD2 FD90-FD91 FDC8-FDCE 10ED0-10ED8 1CCFA-1CCFC 1CEBA-1CED0 1CEE0-1CEF0 1F6D8
     1F777-1F77A 1F8D0-1F8D8 1FA54-1FA57 1FA8A 1FA8E 1FAC8 1FACD 1FAEA 1FAEF 1FBFA"

/-- Letters of all versions. -/
def alphabetic : CharSet :=
  Property.alphabeticSet.union letters

/-- Letters and numbers of all versions. -/
def alphanumeric : CharSet :=
  (alphabetic.union (Category.sets [.decimalNumber, .letterNumber, .otherNumber])).union digits

/-- Characters that no version has assigned. -/
def unassigned : CharSet :=
  Category.unassigned.set.diff (.unions [letters, marks, digits, signs])

/-- Marks that belong to the character before them. -/
def extending : CharSet :=
  Property.graphemeExtendSet.union
    (marks.union
      (.ofTable "10EFA-10EFB 11B60 11B62-11B64 11B66 1E6E3 1E6E6 1E6EE-1E6EF 1E6F5"))

end Newest

end Unicode

end Flowchart
