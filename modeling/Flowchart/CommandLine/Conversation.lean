import Flowchart.CommandLine.Line
import Flowchart.Engine.Execution

/-!
# Conversations

A run is a conversation in turns. A turn shows what the steps said since the last one and then
either ends or asks and waits for an answer; an answer makes the next turn. Each step is shown in
one turn only, since a conversation knows how many steps were shown.
-/

namespace Flowchart

namespace CommandLine

/-- A session that waits for an answer. -/
structure Conversation where
  /-- The flow. -/
  workflowId : Uuid
  /-- The session. -/
  sessionId : String
  /-- How many of its steps were shown. -/
  seen : Nat
  /-- It has been run since it was loaded; one that has not is still as it is in its file. -/
  moved : Bool := true
deriving DecidableEq, Inhabited

/-- How things stand after a turn. -/
inductive Standing where
  /-- An answer is needed. -/
  | waits (c : Conversation)
  /-- There is no more to do. -/
  | ended (success : Bool)
deriving DecidableEq, Inhabited

/-- A turn: what it shows and what it leads to. -/
structure Turn where
  /-- What is printed. -/
  lines : List Line := []
  /-- The engine after the turn. -/
  engine : Engine
  /-- How things stand. -/
  standing : Standing

namespace Turn

/-- The turn with lines before its own. -/
def after (t : Turn) (lines : List Line) : Turn :=
  { t with lines := lines ++ t.lines }

/-- The run stops. -/
def refused (engine : Engine) (r : Refusal) : Turn where
  lines := [.refusal r]
  engine
  standing := .ended false

/-- The turn that a response makes, of which `seen` steps were shown. -/
def ofResponse (engine : Engine) (workflowId : Uuid) (seen : Nat) (r : Engine.Response) : Turn :=
  let shown := (messagesOf (r.history.drop seen)).map Line.message
  if r.status.isTerminal then
    if r.isComplete then
      { lines := shown ++ [.completed, .state r.state], engine, standing := .ended true }
    else
      { lines := shown ++ [.failed (r.error.getD "unknown error")], engine
        standing := .ended false }
  else
    { lines := shown ++ ((r.error.map Line.complaint).toList ++ (r.message.map Line.prompt).toList)
      engine
      standing := .waits { workflowId, sessionId := r.sessionId, seen := r.history.length } }

/-- The turn that a request makes. -/
def ofRequest (engine : Engine) (seen : Nat) (r : Engine.Request) (clock : Clock) : Turn :=
  let (response, engine) := engine.execute r clock
  ofResponse engine r.workflowId seen response

end Turn

namespace Conversation

/-- The request that an answer makes. -/
def request (c : Conversation) (answer : String) : Engine.Request where
  workflowId := c.workflowId
  sessionId := some c.sessionId
  input := some (.string answer)

/-- The turn after an answer. -/
def reply (c : Conversation) (engine : Engine) (answer : String) (clock : Clock) : Turn :=
  Turn.ofRequest engine c.seen (c.request answer) clock

/-- The path and the text that are written when no answer is left, if any: a session that was only
loaded is not written again. -/
def toSave (c : Conversation) (engine : Engine) (target : Option String) :
    Except Refusal (Option (String × String)) :=
  match target with
  | none => .ok none
  | some path =>
    if c.moved then
      match engine.sessions.find? c.sessionId with
      | some s => .ok (some (path, s.saved))
      | none => .error (.sessionLost c.sessionId)
    else .ok none

end Conversation

end CommandLine

end Flowchart
