import Flowchart.Text.Hex
import Flowchart.Unicode.Newest

/-!
# Texts in messages

A text quoted for a reader of a message. Quotes and backslashes are escaped, and so is every
character that would not be seen as itself: control and format characters, fillers, white space other
than a space, unassigned code points, and marks that combine with what stands before them.
-/

namespace Flowchart

namespace Text

open Unicode in
/-- The characters that are not seen as themselves. -/
def hidden : CharSet :=
  .unions [
    Category.sets [.control, .format, .privateUse, .lineSeparator, .paragraphSeparator,
      .spaceSeparator],
    Newest.unassigned,
    Property.defaultIgnorableSet,
    Newest.extending.diff Category.modifierLetter.set]

/-- The character is shown by its number. -/
def isHidden (c : Char) : Bool :=
  c ≠ ' ' && hidden.contains c

/-- One character of a quoted text. -/
def quotedChar (c : Char) : List Char :=
  if c = '"' then ['\\', '"']
  else if c = '\\' then ['\\', '\\']
  else if c = '\n' then ['\\', 'n']
  else if c = '\r' then ['\\', 'r']
  else if c = '\t' then ['\\', 't']
  else if c = '\x00' then ['\\', '0']
  else if isHidden c then '\\' :: 'u' :: '\x7b' :: (hexDigits c.toNat ++ ['\x7d'])
  else [c]

/-- A text in quotes. -/
def quoted (s : String) : String :=
  String.ofList ('"' :: (s.toList.flatMap quotedChar ++ ['"']))

end Text

end Flowchart
