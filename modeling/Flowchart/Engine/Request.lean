import Flowchart.Session.Basic

/-!
# Requests and responses

A request starts a session or goes on with one. The response shows the session as it stands after
the call; a request that reaches no session is rejected with the reason.
-/

namespace Flowchart

/-- Asks to run a flow. -/
structure Engine.Request where
  /-- The flow. -/
  workflowId : Uuid
  /-- The session to go on with; without one a new session is started. -/
  sessionId : Option String := none
  /-- The state of a new session. -/
  initialState : Option StateMap := none
  /-- An answer for the first step. -/
  input : Option Json := none
  /-- The user of a new session. -/
  userId : Option String := none
deriving DecidableEq, Inhabited

/-- Shows what came of a request. -/
structure Engine.Response where
  /-- The session, empty if there is none. -/
  sessionId : String
  /-- How far the session has come. -/
  status : Session.Status
  /-- Nothing went wrong. -/
  success : Bool
  /-- What went wrong. -/
  error : Option String := none
  /-- What is said to the user. -/
  message : Option String := none
  /-- An answer is needed. -/
  requiresInput : Bool
  /-- The session has come to an end. -/
  isComplete : Bool
  /-- The node the session stands on. -/
  current : Option String := none
  /-- The state of the session. -/
  state : StateMap
  /-- What the last step put out. -/
  output : StateMap
  /-- The steps of the session. -/
  history : List Session.Entry
deriving DecidableEq, Inhabited

namespace Engine

/-- The request as a document. -/
def Request.toJson (r : Request) : Json :=
  .ofFields [
    ("workflowId", some (.ofUuid r.workflowId)),
    ("sessionId", r.sessionId.map .string),
    ("initialState", r.initialState.map StateMap.toJson),
    ("userInput", r.input),
    ("userId", r.userId.map .string)]

/-- Reads a request. -/
def Request.decoder : Json.Decoder Request :=
  .record "ExecuteRequest" [
    (.of "workflowId" .uuid fun r v => { r with workflowId := v } :
      Json.Decoder.Field Request).need,
    .of "sessionId" (.option .text) fun r v => { r with sessionId := v },
    .of "initialState" (.option .state) fun r v => { r with initialState := v },
    .of "userInput" (.option .document) fun r v => { r with input := v },
    .of "userId" (.option .text) fun r v => { r with userId := v }] default

namespace Response

/-- A session after a call, with what the call says. -/
def ofSession (s : Session) (message error : Option String) : Response where
  sessionId := s.id
  status := s.status
  success := s.status != .failed && error.isNone
  error
  message
  requiresInput := s.status == .awaitingInput
  isComplete := s.status == .completed
  current := some s.current
  state := s.state
  output := s.lastOutput
  history := s.history

/-- No session was reached. -/
def rejected (sessionId : Option String) (reason : String) : Response where
  sessionId := sessionId.getD ""
  status := .failed
  success := false
  error := some reason
  requiresInput := false
  isComplete := false
  state := .empty
  output := .empty
  history := []

/-- The response as a document. -/
def toJson (r : Response) : Json :=
  .ofFields [
    ("sessionId", some (.string r.sessionId)),
    ("status", some (.string r.status.text)),
    ("success", some (.bool r.success)),
    ("errorMessage", r.error.map .string),
    ("message", r.message.map .string),
    ("requiresUserInput", some (.bool r.requiresInput)),
    ("isComplete", some (.bool r.isComplete)),
    ("currentNodeId", r.current.map .string),
    ("state", some r.state.toJson),
    ("output", some r.output.toJson),
    ("executionHistory", some (.array (r.history.map (·.toJson))))]

/-- Reads a response. -/
def decoder : Json.Decoder Response :=
  .record "ExecuteResponse" [
    (.of "sessionId" .text fun r v => { r with sessionId := v } :
      Json.Decoder.Field Response).need,
    (.of "status" Session.Status.decoder fun r v => { r with status := v } :
      Json.Decoder.Field Response).need,
    (.of "success" .bool fun r v => { r with success := v } : Json.Decoder.Field Response).need,
    .of "errorMessage" (.option .text) fun r v => { r with error := v },
    .of "message" (.option .text) fun r v => { r with message := v },
    (.of "requiresUserInput" .bool fun r v => { r with requiresInput := v } :
      Json.Decoder.Field Response).need,
    (.of "isComplete" .bool fun r v => { r with isComplete := v } :
      Json.Decoder.Field Response).need,
    .of "currentNodeId" (.option .text) fun r v => { r with current := v },
    (.of "state" .state fun r v => { r with state := v } : Json.Decoder.Field Response).need,
    (.of "output" .state fun r v => { r with output := v } : Json.Decoder.Field Response).need,
    (.of "executionHistory" (.list Session.Entry.decoder) fun r v => { r with history := v } :
      Json.Decoder.Field Response).need] default

end Response

end Engine

end Flowchart
