import Flowchart.Condition
import Flowchart.NodeConfig
import Flowchart.Step.Result
import Flowchart.Web.Network

/-!
# Executors

An executor makes a result of the configuration of a node, the state and an answer, if there is one.
Only requests reach outside. Whatever goes wrong inside an executor becomes a failed result that
names the family of the node.
-/

namespace Flowchart

namespace Step

/-- All that a step is made of. -/
structure Input where
  /-- The node. -/
  nodeId : String
  /-- Its configuration. -/
  config : NodeConfig
  /-- The state before the step. -/
  state : StateMap
  /-- The answer that was given, which may be null. -/
  answer : Option Json := none
  /-- The present, as it is written down. -/
  stamp : String := ""

/-- What may go wrong inside an executor. -/
inductive Error where
  /-- The configuration does not give what is asked of it. -/
  | config (e : NodeConfig.Error)
  /-- A condition has no truth value. -/
  | condition (e : Condition.Error)
  /-- A pattern cannot be read. -/
  | pattern
  /-- Requests are not sent by this method. -/
  | unsupportedMethod (method : String)
  /-- A header has no proper name or value. -/
  | invalidHeader (key : String)
  /-- A request was not answered. -/
  | request
  /-- Something that an executor from outside names itself. -/
  | other (reason : String)
deriving DecidableEq

/-- The wording of the failure. -/
def Error.message : Error → String
  | config e => e.message
  | condition e => e.message
  | pattern => "invalid pattern: the text is no pattern"
  | unsupportedMethod method => "unsupported HTTP method: " ++ method
  | invalidHeader key => "invalid header '" ++ key ++ "'"
  | request => "request failed: there is no answer"
  | other reason => reason

/-- Executes the nodes of a family. -/
structure Executor where
  /-- The family, as messages name it. -/
  family : String
  /-- Makes the result of a step. -/
  run : Input → Web.Network → Except Error Result × Web.Network

instance : Inhabited Executor := ⟨{ family := "", run := fun _ n => (.ok default, n) }⟩

namespace Executor

/-- An executor that sends no requests. -/
def silent (family : String) (run : Input → Except Error Result) : Executor where
  family
  run := fun input n => (run input, n)

/-- The result of a step, failed if anything went wrong. -/
def conclude (e : Executor) : Except Error Result → Result
  | .ok r => r
  | .error err => .failed (e.family ++ " node execution failed: " ++ err.message)

/-- Makes the result of a step, whatever happens. -/
def execute (e : Executor) (input : Input) (n : Web.Network) : Result × Web.Network :=
  let (r, n) := e.run input n
  (e.conclude r, n)

end Executor

/-- A look-up in a configuration as part of a step. -/
def configured {α : Type} (x : Except NodeConfig.Error α) : Except Error α :=
  x.mapError .config

theorem configured_ok {α : Type} (a : α) : configured (.ok a) = .ok a := rfl

end Step

end Flowchart
