import Flowchart.Json.Entries
import Flowchart.SortedMap

/-!
# State

The variables of a session, and every other map from names to documents: the output of a step and
the updates it asks for. A state is walked in the order of its names.
-/

namespace Flowchart

/-- Named documents, in the order of their names. -/
abbrev StateMap := SortedMap Json

namespace StateMap

/-- A state as a document. -/
def toJson (s : StateMap) : Json :=
  .object s.entries

/-- The state of an object's entries. -/
def ofEntries (es : Json.Entries) : StateMap :=
  SortedMap.ofList es

end StateMap

end Flowchart
