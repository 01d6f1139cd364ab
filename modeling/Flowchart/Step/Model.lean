import Flowchart.Step.Executor
import Flowchart.Template

/-!
# Language models

An agent node stands for a call of a language model. No model is called: the response says what it
would have been asked, and the configuration says which parts of it go into the state.
-/

namespace Flowchart

namespace Step

namespace Model

/-- The model that is named if none is configured. -/
def defaultName : String :=
  "gpt-4"

/-- What is said of a step that succeeded. -/
def doneMessage : String :=
  "LLM function executed successfully (simulated)"

/-- The instruction of the node; agents carry it as their prompt. -/
def instruction (c : NodeConfig) : Except NodeConfig.Error String := do
  match ← c.text? "instructionPrompt" with
  | some s => return s
  | none => return (← c.text? "prompt").getD ""

/-- The variables that are handed over, under the names by which the model knows them. -/
def context (mapping : NodeConfig) (state : StateMap) :
    List String → Except NodeConfig.Error Json.Entries
  | [] => .ok []
  | field :: fields => do
    let source ← mapping.text? field
    let rest ← context mapping state fields
    return ((source.bind state.find?).map fun v => (field, v)).toList ++ rest

/-- The variables that take parts of the response. -/
def assigned (mapping : NodeConfig) (response : StateMap) :
    List String → Except NodeConfig.Error Json.Entries
  | [] => .ok []
  | field :: fields => do
    let target ← mapping.text? field
    let rest ← assigned mapping response fields
    return ((response.find? field).bind fun v => target.map fun t => (t, v)).toList ++ rest

/-- The response of a model. -/
def response (prompt name stamp : String) (context : Json.Entries) : StateMap :=
  .ofEntries [
    ("response", .string ("Simulated LLM response for: " ++ prompt)),
    ("model", .string name),
    ("timestamp", .string stamp),
    ("inputContext", .object context)]

/-- Makes up the response of the configured model. -/
def run (input : Input) : Except Error Result := configured do
  let c := input.config
  let instruction ← instruction c
  let name ← c.textOr "modelName" defaultName
  let inputs ← c.section? "inputMapping"
  let context ← context inputs input.state inputs.keys
  let response := response (Template.render instruction input.state) name input.stamp context
  let outputs ← c.section? "outputMapping"
  let updates ← assigned outputs response outputs.keys
  return { Result.done response with
    updates := .ofEntries updates
    message := some doneMessage }

end Model

/-- Executes function and agent nodes. -/
def model : Executor :=
  .silent "LLM" Model.run

end Step

end Flowchart
