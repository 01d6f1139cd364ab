import Flowchart.CommandLine.Options
import Flowchart.Files
import Flowchart.Graph.Validation
import Flowchart.Session.Basic
import Flowchart.Source
import Flowchart.Storage

/-!
# Lines

All that a command line prints, by what it tells. What goes wrong goes to the stream of errors, and
so does every finding of validation.
-/

namespace Flowchart

namespace CommandLine

/-- Why a run comes to no conversation, or cannot save one. -/
inductive Refusal where
  /-- The arguments are not understood. -/
  | misuse (misuse : Misuse)
  /-- The settings are refused. -/
  | settings (e : Settings.Error)
  /-- The file of the graph cannot be read. -/
  | noGraph (path : String) (fault : Files.Fault)
  /-- The file of a session cannot be read. -/
  | noSession (path : String) (fault : Files.Fault)
  /-- The file of a session holds none. -/
  | notASession (path : String) (mismatch : Json.Mismatch)
  /-- The source makes no graph. -/
  | source (e : Source.Error)
  /-- Validation found errors. -/
  | invalidGraph
  /-- An entry of the state has no key. -/
  | noKey (entry : String)
  /-- The flow cannot be kept. -/
  | unkept (reason : String)
  /-- The session cannot be put back. -/
  | unrestored (e : Storage.Error)
  /-- The session cannot be saved. -/
  | unsaved (path : String) (fault : Files.Fault)
  /-- There is no session to save. -/
  | sessionLost (id : String)
deriving DecidableEq

/-- The wording of a refusal. -/
def Refusal.message : Refusal → String
  | misuse m => m.message
  | settings e => "Invalid configuration: " ++ e.message
  | noGraph path fault => "Error reading " ++ path ++ ": " ++ fault.message
  | noSession path fault =>
    "Error loading session " ++ path ++ ": session file I/O failed: " ++ fault.message
  | notASession path mismatch =>
    "Error loading session " ++ path ++ ": session file is not a valid session: " ++
      mismatch.message
  | source e => "Error compiling graph: " ++ e.message
  | invalidGraph => "Graph has validation errors (use --no-validate to run anyway)."
  | noKey entry => "invalid --state '" ++ entry ++ "': expected KEY=VALUE"
  | unkept reason => "Error storing workflow: " ++ reason
  | unrestored e => "Error restoring session: " ++ e.message
  | unsaved path fault =>
    "Error saving session " ++ path ++ ": session file I/O failed: " ++ fault.message
  | sessionLost id => "session not found: " ++ id

/-- Something that is printed. -/
inductive Line where
  /-- A line of help. -/
  | help (text : String)
  /-- An error that validation found. -/
  | error (f : Graph.Finding)
  /-- A warning of validation. -/
  | warning (f : Graph.Finding)
  /-- Why the run stops. -/
  | refusal (r : Refusal)
  /-- The graph is valid. -/
  | valid
  /-- What a step says. -/
  | message (text : String)
  /-- What is wrong with an answer. -/
  | complaint (text : String)
  /-- A question. -/
  | prompt (text : String)
  /-- No answer is left. -/
  | awaiting
  /-- The flow came to its end. -/
  | completed
  /-- The state at the end. -/
  | state (s : StateMap)
  /-- The flow failed. -/
  | failed (reason : String)
deriving DecidableEq

namespace Line

/-- How a line is printed. -/
def text : Line → String
  | help text | message text | complaint text | prompt text => text
  | error f => "error " ++ f.code.text ++ ": " ++ f.message
  | warning f => "warning " ++ f.code.text ++ ": " ++ f.message
  | refusal r => r.message
  | valid => "Graph is valid."
  | awaiting => "Awaiting input."
  | completed => "Workflow completed."
  | state s => s.toJson.pretty
  | failed reason => "Workflow failed: " ++ reason

/-- The line goes to the stream of errors. -/
def isError : Line → Bool
  | error _ | warning _ | refusal _ | complaint _ => true
  | help _ | valid | message _ | prompt _ | awaiting | completed | state _ | failed _ => false

/-- The text of a message, if the line is one. -/
def message? : Line → Option String
  | message text => some text
  | _ => none

end Line

/-- The messages among lines. -/
def messages (lines : List Line) : List String :=
  lines.filterMap Line.message?

/-- The messages in a history: the text that a step puts out under `message`. -/
def messagesOf (history : List Session.Entry) : List String :=
  history.filterMap fun e =>
    match e.output.find? "message" with
    | some (.string text) => some text
    | _ => none

/-! ## Small laws -/

@[simp] theorem messages_append (l r : List Line) : messages (l ++ r) = messages l ++ messages r :=
  List.filterMap_append

@[simp] theorem messages_map_message (texts : List String) :
    messages (texts.map Line.message) = texts := by
  induction texts with
  | nil => rfl
  | cons t texts ih => simpa [messages, Line.message?] using ih

@[simp] theorem messagesOf_append (l r : List Session.Entry) :
    messagesOf (l ++ r) = messagesOf l ++ messagesOf r :=
  List.filterMap_append

end CommandLine

end Flowchart
