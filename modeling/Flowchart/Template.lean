import Flowchart.Json.Printer
import Flowchart.StateMap
import Flowchart.Text.Blank

/-!
# Placeholders in texts

`render` puts values for `{name}` groups. The names are applied one after another in their order,
each replacing every group of its own in the text made so far. So a value put in by one name is seen
by the names after it and never by those before it; there is no escaping, and a group whose name is
no variable stays as it is.
-/

namespace Flowchart

namespace Template

/-- The group that stands for a name. -/
def placeholder (name : String) : List Char :=
  '\x7b' :: (name.toList ++ ['\x7d'])

/-- Puts the display texts of the variables in for their groups. -/
def renderChars (template : List Char) (vars : List (String × Json)) : List Char :=
  vars.foldl (fun out e => Text.replace (placeholder e.1) e.2.display.toList out) template

/-- The template with the variables filled in. -/
def render (template : String) (vars : StateMap) : String :=
  String.ofList (renderChars template.toList vars.entries)

/-- The name of a text that is one group and nothing else. Such a name is not empty and holds
neither braces nor white space. -/
def bareReference? (text : String) : Option String :=
  match text.toList with
  | '\x7b' :: rest =>
    let name := rest.dropLast
    if rest.getLast? = some '\x7d' ∧ !name.isEmpty ∧
        name.all (fun c => c ≠ '\x7b' ∧ c ≠ '\x7d' ∧ !Text.isBlank c) then
      some (String.ofList name)
    else none
  | _ => none

/-- The variable that a text refers to as a whole, if it exists. -/
def referenced? (text : String) (vars : StateMap) : Option Json :=
  (bareReference? text).bind vars.find?

end Template

end Flowchart
