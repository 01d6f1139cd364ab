import Flowchart.Engine.Basic
import Flowchart.Engine.Request
import Flowchart.Session.Loop

/-!
# Executing requests

A request without a session starts one at the start of its flow; any other goes on with its session,
unless that has been completed. After a run the session is stored and the run is logged, also when
the store refuses the session, which makes the response a failure.
-/

namespace Flowchart

namespace Engine

/-- Why a request does not come to a run. -/
inductive Rejection where
  /-- There is no such flow. -/
  | workflowNotFound (id : Uuid)
  /-- The flow has no start. -/
  | noStartNode
  /-- The flow has no such session. -/
  | sessionNotFound (id : String)
deriving DecidableEq

/-- The wording of the reason. -/
def Rejection.message : Rejection → String
  | workflowNotFound id => "workflow not found: " ++ id.toText
  | noStartNode => "workflow has no start node"
  | sessionNotFound id => "session not found: " ++ id

/-- The graph of a flow. -/
def graphOf (e : Engine) (id : Uuid) : Except Rejection Graph :=
  match e.flows.find? id with
  | some w => .ok w.graph
  | none => .error (.workflowNotFound id)

/-- The session of a flow. -/
def sessionOf (e : Engine) (id : String) (workflowId : Uuid) : Except Rejection Session :=
  match (e.sessions.find? id).filter (·.workflowId == workflowId) with
  | some s => .ok s
  | none => .error (.sessionNotFound id)

/-- What the log tells of a run. -/
def runEntry (s : Session) (success : Bool) (clock : Clock) : Audit.Entry where
  workflowId := s.workflowId
  action := if success then .executed else .executionFailed
  timestamp := clock.now
  userId := s.userId
  sessionId := some s.id
  details := .object [
    ("nodesExecuted", .ofNat s.history.length),
    ("finalState", s.state.toJson)]

/-- The response to a run whose session could not be stored. -/
def unstored (r : Response) (err : Storage.Error) : Response :=
  { r with success := false, error := some ("failed to persist session: " ++ err.message) }

/-- Runs a session, stores it and logs the run. -/
def runSession (e : Engine) (graph : Graph) (s : Session) (clock : Clock) : Response × Engine :=
  let run := s.run { graph, registry := e.registry, clock } e.settings.maxSteps e.network
  let shown := Response.ofSession run.session run.outcome.message? run.outcome.error?
  let (stored, sessions) := e.sessions.put run.session
  let r := match stored with
    | .ok () => shown
    | .error err => unstored shown err
  (r, { e with sessions, network := run.network }.log (runEntry run.session r.success clock))

/-- Starts a session. -/
def startSession (e : Engine) (r : Request) (clock : Clock) : Response × Engine :=
  match e.graphOf r.workflowId with
  | .error reason => (.rejected none reason.message, e)
  | .ok graph =>
    match graph.start? with
    | none => (.rejected none Rejection.noStartNode.message, e)
    | some node =>
      let user := r.userId.getD e.settings.defaultUser
      let s := Session.start e.ids.next.toText r.workflowId user node.id
        (r.initialState.getD .empty) clock.now
      runSession { e with ids := e.ids.skip 1 } graph { s with input := r.input } clock

/-- Goes on with a session. A completed one is shown as it is. -/
def resumeSession (e : Engine) (id : String) (r : Request) (clock : Clock) : Response × Engine :=
  match e.sessionOf id r.workflowId with
  | .error reason => (.rejected (some id) reason.message, e)
  | .ok s =>
    if s.status = .completed then (.ofSession s (some Session.completedMessage) none, e)
    else
      match e.graphOf s.workflowId with
      | .error reason => (.ofSession s none (some reason.message), e)
      | .ok graph => runSession e graph { s with input := r.input } clock

/-- Executes a request. -/
def execute (e : Engine) (r : Request) (clock : Clock) : Response × Engine :=
  match r.sessionId with
  | some id => e.resumeSession id r clock
  | none => e.startSession r clock

end Engine

end Flowchart
