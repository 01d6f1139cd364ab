import Flowchart.Step.Executor

/-!
# Starts

A start node does nothing, and the flow leaves it by its first edge.
-/

namespace Flowchart

namespace Step

/-- Executes start nodes. -/
def passThrough : Executor :=
  .silent "Start" fun _ => .ok (.done .empty)

end Step

end Flowchart
