import Flowchart.Graph.Basic
import Flowchart.Step.Assignment
import Flowchart.Step.Call
import Flowchart.Step.Choice
import Flowchart.Step.Message
import Flowchart.Step.Model
import Flowchart.Step.PassThrough
import Flowchart.Step.Question

/-!
# Registries

Which executor takes which kind of node. Kinds that start a flow and have no executor of their own
go to that of start nodes.
-/

namespace Flowchart

namespace Step

/-- Executors by the kind of node they take. -/
structure Registry where
  /-- The kinds with their executors; the first one of a kind counts. -/
  executors : List (String × Executor) := []

namespace Registry

/-- The executor that is registered for a kind. -/
def find? (r : Registry) (kind : String) : Option Executor :=
  (r.executors.find? (·.1 == kind)).map (·.2)

/-- The executor of a kind. -/
def resolve? (r : Registry) (kind : String) : Option Executor :=
  r.find? kind <|> if Graph.isStartKind kind then r.find? "StartNode" else none

/-- The registry with one executor more, which takes precedence. -/
def register (r : Registry) (kind : String) (e : Executor) : Registry where
  executors := (kind, e) :: r.executors

/-- The kinds that are built in. -/
def builtIn : Registry where
  executors := [
    ("StartNode", passThrough),
    ("trigger", passThrough),
    ("MessageNode", message),
    ("QuestionNode", question),
    ("APICallNode", call),
    ("ConditionNode", choice),
    ("condition", choice),
    ("FunctionNode", model),
    ("agent", model),
    ("StateUpdateNode", assignment)]

end Registry

end Step

end Flowchart
