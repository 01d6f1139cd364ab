import Flowchart.Json.Fields

/-!
# Results of steps

What a step leaves behind: its output, what it changes in the state, and where the flow goes on. A
step that needs an answer asks for it; one whose answer was refused has failed and asks again.
-/

namespace Flowchart

namespace Step

/-- The result of a step. -/
structure Result where
  /-- The step succeeded. -/
  success : Bool
  /-- Why it did not. -/
  error : Option String := none
  /-- What it put out. -/
  output : StateMap := .empty
  /-- The node to go on with. -/
  nextNode : Option String := none
  /-- The port to leave through, if no node is named. -/
  nextPort : Option String := none
  /-- An answer is needed. -/
  requiresInput : Bool := false
  /-- What is said to whoever is asked. -/
  message : Option String := none
  /-- The changes of the state. -/
  updates : StateMap := .empty
  /-- The flow ends here. -/
  isComplete : Bool := false
deriving DecidableEq, Inhabited

namespace Result

/-- A step that succeeded. -/
def done (output : StateMap) : Result :=
  { success := true, output }

/-- A step that failed. -/
def failed (reason : String) : Result :=
  { success := false, error := some reason }

/-- A step that waits for an answer. -/
def asking (prompt : String) : Result :=
  { success := true, requiresInput := true, message := some prompt }

/-- A step whose answer was refused. -/
def refused (prompt reason : String) : Result :=
  { success := false, requiresInput := true, message := some prompt, error := some reason }

/-- The result as a document. -/
def toJson (r : Result) : Json :=
  .ofFields [
    ("success", some (.bool r.success)),
    ("errorMessage", r.error.map .string),
    ("output", some r.output.toJson),
    ("nextNodeId", r.nextNode.map .string),
    ("nextPort", r.nextPort.map .string),
    ("requiresUserInput", some (.bool r.requiresInput)),
    ("message", r.message.map .string),
    ("stateUpdates", some r.updates.toJson),
    ("isComplete", some (.bool r.isComplete))]

/-- Reads a result. -/
def decoder : Json.Decoder Result :=
  .record "NodeResult" [
    (.of "success" .bool fun r v => { r with success := v } : Json.Decoder.Field Result).need,
    .of "errorMessage" (.option .text) fun r v => { r with error := v },
    .of "output" .state fun r v => { r with output := v },
    .of "nextNodeId" (.option .text) fun r v => { r with nextNode := v },
    .of "nextPort" (.option .text) fun r v => { r with nextPort := v },
    .of "requiresUserInput" .bool fun r v => { r with requiresInput := v },
    .of "message" (.option .text) fun r v => { r with message := v },
    .of "stateUpdates" .state fun r v => { r with updates := v },
    .of "isComplete" .bool fun r v => { r with isComplete := v }] (.done .empty)

end Result

end Step

end Flowchart
