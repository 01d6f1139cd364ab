import Flowchart.Step.Result

/-!
# Sessions

A session is one run of a flow that can be left and taken up again: where it stands, its state, and
the history of its steps.
-/

namespace Flowchart

/-- How far a session has come. -/
inductive Session.Status where
  /-- It is being run. -/
  | running
  /-- It waits for an answer. -/
  | awaitingInput
  /-- It has come to an end. -/
  | completed
  /-- Something went wrong. -/
  | failed
deriving DecidableEq, Inhabited

/-- A step of a session. -/
structure Session.Entry where
  /-- The node that was executed. -/
  nodeId : String
  /-- Its kind. -/
  nodeKind : String
  /-- When it was executed. -/
  executedAt : Instant
  /-- The step succeeded. -/
  success : Bool
  /-- Why it did not. -/
  error : Option String := none
  /-- What it put out. -/
  output : StateMap := .empty
deriving DecidableEq, Inhabited

/-- A run of a flow. -/
structure Session where
  /-- Its identifier. -/
  id : String
  /-- The flow. -/
  workflowId : Uuid
  /-- Whose run it is. -/
  userId : String
  /-- The node it stands on. -/
  current : String
  /-- How far it has come. -/
  status : Session.Status := .running
  /-- The state. -/
  state : StateMap := .empty
  /-- The steps so far, in order. -/
  history : List Session.Entry := []
  /-- An answer that no step has seen yet. -/
  input : Option Json := none
  /-- The question that it waits at. -/
  prompt : Option String := none
  /-- When it was started. -/
  createdAt : Instant
  /-- When it changed last. -/
  updatedAt : Instant
deriving DecidableEq, Inhabited

namespace Session

namespace Status

/-- The statuses. -/
def all : List Status :=
  [running, awaitingInput, completed, failed]

/-- How a status is written. -/
def text : Status → String
  | running => "Running"
  | awaitingInput => "AwaitingInput"
  | completed => "Completed"
  | failed => "Failed"

/-- The session goes no further by itself. -/
def isTerminal : Status → Bool
  | completed | failed => true
  | running | awaitingInput => false

/-- Reads a status. -/
def decoder : Json.Decoder Status :=
  .word "SessionStatus" (all.map fun s => (s.text, s))

end Status

/-- A session that stands at the start of a flow. -/
def start (id : String) (workflowId : Uuid) (userId node : String) (state : StateMap)
    (now : Instant) : Session :=
  { id, workflowId, userId, current := node, state, createdAt := now, updatedAt := now }

/-- The step that a result is recorded as. -/
def Entry.ofResult (nodeId nodeKind : String) (r : Step.Result) (now : Instant) : Entry where
  nodeId
  nodeKind
  executedAt := now
  success := r.success
  error := r.error
  output := r.output

/-- The session with one step more. -/
def record (s : Session) (e : Entry) (now : Instant) : Session :=
  { s with history := s.history ++ [e], updatedAt := now }

/-- The session with changes of its state. -/
def apply (s : Session) (updates : StateMap) : Session :=
  { s with state := s.state.overlay updates }

/-- What the last step put out. -/
def lastOutput (s : Session) : StateMap :=
  (s.history.getLast?.map (·.output)).getD .empty

/-! ## Written form -/

/-- The step as a document. -/
def Entry.toJson (e : Entry) : Json :=
  .ofFields [
    ("nodeId", some (.string e.nodeId)),
    ("nodeKind", some (.string e.nodeKind)),
    ("executedAt", some (.ofInstant e.executedAt)),
    ("success", some (.bool e.success)),
    ("errorMessage", e.error.map .string),
    ("output", some e.output.toJson)]

/-- Reads a step. -/
def Entry.decoder : Json.Decoder Entry :=
  .record "HistoryEntry" [
    (.of "nodeId" .text fun e v => { e with nodeId := v } : Json.Decoder.Field Entry).need,
    (.of "nodeKind" .text fun e v => { e with nodeKind := v } : Json.Decoder.Field Entry).need,
    (.of "executedAt" .instant fun e v => { e with executedAt := v } :
      Json.Decoder.Field Entry).need,
    (.of "success" .bool fun e v => { e with success := v } : Json.Decoder.Field Entry).need,
    .of "errorMessage" (.option .text) fun e v => { e with error := v },
    .of "output" .state fun e v => { e with output := v }] default

/-- The session as a document. -/
def toJson (s : Session) : Json :=
  .ofFields [
    ("sessionId", some (.string s.id)),
    ("workflowId", some (.ofUuid s.workflowId)),
    ("userId", some (.string s.userId)),
    ("currentNodeId", some (.string s.current)),
    ("status", some (.string s.status.text)),
    ("stateVariables", some s.state.toJson),
    ("executionHistory", some (.array (s.history.map (·.toJson)))),
    ("userInput", s.input),
    ("pendingPrompt", s.prompt.map .string),
    ("createdAt", some (.ofInstant s.createdAt)),
    ("updatedAt", some (.ofInstant s.updatedAt))]

/-- Reads a session. -/
def decoder : Json.Decoder Session :=
  .record "ExecutionSession" [
    (.of "sessionId" .text fun s v => { s with id := v } : Json.Decoder.Field Session).need,
    (.of "workflowId" .uuid fun s v => { s with workflowId := v } :
      Json.Decoder.Field Session).need,
    (.of "userId" .text fun s v => { s with userId := v } : Json.Decoder.Field Session).need,
    (.of "currentNodeId" .text fun s v => { s with current := v } :
      Json.Decoder.Field Session).need,
    .of "status" Status.decoder fun s v => { s with status := v },
    .of "stateVariables" .state fun s v => { s with state := v },
    .of "executionHistory" (.list Entry.decoder) fun s v => { s with history := v },
    .of "userInput" (.option .document) fun s v => { s with input := v },
    .of "pendingPrompt" (.option .text) fun s v => { s with prompt := v },
    (.of "createdAt" .instant fun s v => { s with createdAt := v } :
      Json.Decoder.Field Session).need,
    (.of "updatedAt" .instant fun s v => { s with updatedAt := v } :
      Json.Decoder.Field Session).need]
    (start "" .nil "" "" .empty .epoch)

/-- The text of a saved session. -/
def saved (s : Session) : String :=
  s.toJson.pretty

/-- Reads the text of a saved session. -/
def ofSaved? (text : String) : Except Json.Mismatch Session :=
  decoder.ofString text

end Session

end Flowchart
