import Flowchart.Json.Fields

/-!
# Audit

A log of what was done to flows, by whom and when. Entries are only ever added.
-/

namespace Flowchart

namespace Audit

/-- What was done. -/
inductive Action where
  /-- A flow was made. -/
  | created
  /-- A flow was changed. -/
  | updated
  /-- A flow was deleted. -/
  | deleted
  /-- A version was published. -/
  | published
  /-- A version was made the active one. -/
  | versionActivated
  /-- A flow was run. -/
  | executed
  /-- A run of a flow failed. -/
  | executionFailed
  /-- Something else. -/
  | other (name : String)
deriving DecidableEq, Inhabited

namespace Action

/-- The actions that have names of their own. -/
def all : List Action :=
  [created, updated, deleted, published, versionActivated, executed, executionFailed]

/-- How an action is written. -/
def text : Action → String
  | created => "Created"
  | updated => "Updated"
  | deleted => "Deleted"
  | published => "Published"
  | versionActivated => "VersionActivated"
  | executed => "Executed"
  | executionFailed => "ExecutionFailed"
  | other name => name

/-- The action of a text. -/
def ofText (s : String) : Action :=
  (all.find? (·.text == s)).getD (other s)

end Action

/-- An entry of the log. -/
structure Entry where
  /-- The flow. -/
  workflowId : Uuid
  /-- What was done. -/
  action : Action
  /-- When. -/
  timestamp : Instant
  /-- By whom. -/
  userId : String
  /-- In which session. -/
  sessionId : Option String := none
  /-- What else is known. -/
  details : Json := .null
deriving DecidableEq, Inhabited

namespace Entry

/-- The entry as a document. -/
def toJson (e : Entry) : Json :=
  .ofFields [
    ("workflowId", some (.ofUuid e.workflowId)),
    ("action", some (.string e.action.text)),
    ("timestamp", some (.ofInstant e.timestamp)),
    ("userId", some (.string e.userId)),
    ("sessionId", e.sessionId.map .string),
    ("details", some e.details)]

/-- Reads an entry. -/
def decoder : Json.Decoder Entry :=
  .record "AuditEntry" [
    (.of "workflowId" .uuid fun e v => { e with workflowId := v } : Json.Decoder.Field Entry).need,
    (.of "action" .text fun e v => { e with action := .ofText v } : Json.Decoder.Field Entry).need,
    (.of "timestamp" .instant fun e v => { e with timestamp := v } :
      Json.Decoder.Field Entry).need,
    (.of "userId" .text fun e v => { e with userId := v } : Json.Decoder.Field Entry).need,
    .of "sessionId" (.option .text) fun e v => { e with sessionId := v },
    .of "details" .document fun e v => { e with details := v }]
    { workflowId := .nil, action := .created, timestamp := .epoch, userId := "" }

end Entry

/-- The entries so far, in order. -/
structure Log where
  /-- The entries. -/
  entries : List Entry := []
  /-- Whether the log keeps what is recorded. -/
  keeps : Bool := true
deriving DecidableEq, Inhabited

namespace Log

/-- Records an entry. Nothing depends on whether it is kept. -/
def record (l : Log) (e : Entry) : Log :=
  if l.keeps then { l with entries := l.entries ++ [e] } else l

/-- The entries of a flow. -/
def ofWorkflow (l : Log) (id : Uuid) : List Entry :=
  l.entries.filter (·.workflowId == id)

end Log

end Audit

end Flowchart
