import Flowchart.Pattern.Machine
import Flowchart.Pattern.Matching
import Flowchart.Pattern.Meaning
import Flowchart.Pattern.Reader

/-!
# Patterns from texts

A text is a pattern if it can be read, nests no deeper than a limit, means something, and has machines
that keep to a limit, too.
-/

namespace Flowchart

namespace Pattern

/-- How deep a pattern may nest. -/
def depthLimit : Nat := 250

/-- The pattern that a text writes. -/
def ofText? (s : String) : Option Pattern :=
  (Written.ofText? s).bind fun w =>
    if w.depth ≤ depthLimit then w.pattern?.filter (·.fits) else none

end Pattern

end Flowchart
