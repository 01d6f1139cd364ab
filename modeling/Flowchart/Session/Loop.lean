import Flowchart.Clock
import Flowchart.Session.Basic
import Flowchart.Step.Registry

/-!
# Running a session

A call runs a session node by node until it ends, needs an answer or fails. An answer that was given
is seen by the first step only. `runFrom` counts the steps that are left down, so a run never takes
more steps than its budget.
-/

namespace Flowchart

namespace Session

/-- What is said at the end of a flow. -/
def completedMessage : String :=
  "Workflow completed successfully"

/-- What is said where no edge leads on. -/
def deadEndMessage : String :=
  "Workflow execution ended (no next node found)"

/-- Why a run failed. -/
inductive Failure where
  /-- The session stands on no node of the graph. -/
  | nodeNotFound (id : String)
  /-- The steps of the budget are used up. -/
  | stepBudgetExceeded (budget : Nat)
  /-- No executor takes nodes of this kind. -/
  | noExecutor (kind : String)
  /-- The configuration of a node cannot be read. -/
  | invalidNodeConfig (id : String) (reason : NodeConfig.Error)
  /-- A step failed. -/
  | stepFailed (message : String)
deriving DecidableEq

/-- The wording of the failure. -/
def Failure.message : Failure → String
  | nodeNotFound id => "node not found: " ++ id
  | stepBudgetExceeded budget =>
    "workflow execution exceeded maximum iterations (" ++ String.ofList (Decimal.digits budget) ++
      "), possible infinite loop"
  | noExecutor kind => "no executor found for node type: " ++ kind
  | invalidNodeConfig id reason =>
    "invalid configuration for node '" ++ id ++ "': " ++ reason.message
  | stepFailed message => message

/-- How a run ended. -/
inductive Outcome where
  /-- At the end of the flow. -/
  | completed (message : String)
  /-- At a question; `error` says why an answer was refused. -/
  | awaitingInput (prompt error : Option String)
  /-- By a failure. -/
  | failed (reason : Failure)
deriving DecidableEq

namespace Outcome

/-- What is said to the user. -/
def message? : Outcome → Option String
  | completed message => some message
  | awaitingInput prompt _ => prompt
  | failed _ => none

/-- What went wrong. -/
def error? : Outcome → Option String
  | completed _ => none
  | awaitingInput _ error => error
  | failed reason => some reason.message

end Outcome

/-- What a run takes place in. -/
structure Setting where
  /-- The graph it goes through. -/
  graph : Graph
  /-- The executors of its steps. -/
  registry : Step.Registry
  /-- What its steps see of the time. -/
  clock : Clock

/-- A run that has ended. -/
structure Run where
  /-- The session after it. -/
  session : Session
  /-- How it ended. -/
  outcome : Outcome
  /-- The outside after it. -/
  network : Web.Network

/-! ## Ends -/

/-- The session has failed. -/
def fail (s : Session) (reason : Failure) : Session × Outcome :=
  ({ s with status := .failed, input := none }, .failed reason)

/-- The session has come to an end. -/
def complete (s : Session) (message : String) : Session × Outcome :=
  ({ s with status := .completed, prompt := none, input := none }, .completed message)

/-- The session waits for an answer. -/
def await (s : Session) (prompt error : Option String) : Session × Outcome :=
  ({ s with status := .awaitingInput, prompt }, .awaitingInput prompt error)

/-! ## One step -/

/-- The node that is to be executed next, unless the session ends where it stands. -/
def arrive (g : Graph) (s : Session) : Except (Session × Outcome) Graph.Node :=
  match g.node? s.current with
  | none => .error (s.fail (.nodeNotFound s.current))
  | some node => if node.isEnd then .error (s.complete completedMessage) else .ok node

/-- The executor and the configuration of a node. -/
def prepare (r : Step.Registry) (node : Graph.Node) :
    Except Failure (Step.Executor × NodeConfig) :=
  match r.resolve? node.kind with
  | none => .error (.noExecutor node.kind)
  | some executor =>
    match node.config? with
    | .error e => .error (.invalidNodeConfig node.id e)
    | .ok config => .ok (executor, config)

/-- The node after one with a result: the one it names, else the target of the first edge that
leaves through its port. -/
def next? (g : Graph) (node : Graph.Node) (r : Step.Result) : Option String :=
  match r.nextNode with
  | some id => some id
  | none => (g.wayOut? node.id r.nextPort).map (·.target)

/-- The run ends here. -/
def ended (e : Session × Outcome) : Session × Option Outcome :=
  (e.1, some e.2)

/-- Where a recorded result leads: to an end of the run, or on to the next node. -/
def settle (g : Graph) (node : Graph.Node) (r : Step.Result) (s : Session) :
    Session × Option Outcome :=
  if r.success then
    let s := s.apply r.updates
    if r.requiresInput then ended (s.await r.message none)
    else
      let s := { s with prompt := none }
      if r.isComplete then ended (s.complete (r.message.getD completedMessage))
      else
        match next? g node r with
        | some id => ({ s with current := id }, none)
        | none => ended (s.complete deadEndMessage)
  else if r.requiresInput then ended (s.await r.message r.error)
  else ended (s.fail (.stepFailed (r.error.getD ("node '" ++ node.id ++ "' failed"))))

/-- The moment of the next step. -/
def moment (s : Session) (clock : Clock) : Moment :=
  clock.moment s.history.length

/-- What a step is made of. -/
def stepInput (setting : Setting) (node : Graph.Node) (config : NodeConfig) (s : Session) :
    Step.Input where
  nodeId := node.id
  config
  state := s.state
  answer := s.input
  stamp := (s.moment setting.clock).stamp

/-- Executes a node: its result is recorded, and the answer is used up. -/
def step (setting : Setting) (node : Graph.Node) (executor : Step.Executor) (config : NodeConfig)
    (s : Session) (n : Web.Network) : (Session × Option Outcome) × Web.Network :=
  let (r, n) := executor.execute (stepInput setting node config s) n
  let now := (s.moment setting.clock).now
  let s := { s with input := none }.record (.ofResult node.id node.kind r now) now
  (settle setting.graph node r s, n)

/-! ## Runs -/

/-- Runs a session with some steps left of its budget. -/
def runFrom (setting : Setting) (budget : Nat) : (left : Nat) → Session → Web.Network → Run
  | left, s, n =>
    match arrive setting.graph s with
    | .error (session, outcome) => { session, outcome, network := n }
    | .ok node =>
      match left with
      | 0 =>
        let (session, outcome) := s.fail (.stepBudgetExceeded budget)
        { session, outcome, network := n }
      | left + 1 =>
        match prepare setting.registry node with
        | .error reason =>
          let (session, outcome) := s.fail reason
          { session, outcome, network := n }
        | .ok (executor, config) =>
          match step setting node executor config s n with
          | ((session, some outcome), network) => { session, outcome, network }
          | ((s, none), n) => runFrom setting budget left s n

/-- Runs a session for at most `budget` steps. -/
def run (setting : Setting) (budget : Nat) (s : Session) (n : Web.Network) : Run :=
  runFrom setting budget budget { s with status := .running } n

end Session

end Flowchart
