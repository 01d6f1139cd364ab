import Flowchart.Pattern.Written
import Flowchart.Unicode.Property.Set

/-!
# Digits, spaces and words

The sets behind the classes that have a letter or an ASCII name.
-/

namespace Flowchart

namespace Pattern

namespace Shorthand

/-- Decimal digits of any script. -/
def digits : CharSet :=
  Unicode.Category.decimalNumber.set

/-- White space. -/
def spaces : CharSet :=
  .ofRanges Text.blankRanges

/-- The characters of words: letters, marks, digits, connectors and the two joiners. -/
def words : CharSet :=
  .unions [Unicode.Property.alphabeticSet,
    Unicode.Category.sets [.nonspacingMark, .spacingMark, .enclosingMark, .decimalNumber,
      .connectorPunctuation],
    .range 0x200C 0x200D]

/-- ASCII letters, digits and the underscore. -/
def asciiWords : CharSet :=
  .ofTable "30-39 41-5A 5F 61-7A"

/-- The ASCII classes by name. -/
def asciiTables : List (String × String) :=
  [("alnum", "30-39 41-5A 61-7A"), ("alpha", "41-5A 61-7A"), ("ascii", "0-7F"), ("blank", "9 20"),
   ("cntrl", "0-1F 7F"), ("digit", "30-39"), ("graph", "21-7E"), ("lower", "61-7A"),
   ("print", "20-7E"), ("punct", "21-2F 3A-40 5B-60 7B-7E"), ("space", "9-D 20"), ("upper", "41-5A"),
   ("word", "30-39 41-5A 5F 61-7A"), ("xdigit", "30-39 41-46 61-66")]

/-- The ASCII class with a name. -/
def ascii (name : List Char) : CharSet :=
  .ofTable ((asciiTables.lookup (String.ofList name)).getD "")

/-- The characters of a class with a letter. -/
def set (unicode : Bool) : Shorthand → CharSet
  | digit => if unicode then digits else .range 0x30 0x39
  | space => if unicode then spaces else .ofTable "9-D 20"
  | word => if unicode then words else asciiWords

end Shorthand

end Pattern

end Flowchart
