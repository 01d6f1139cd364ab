import Flowchart.Graph.Cycles
import Flowchart.Step.Branch

/-!
# Validation

Rules on the shape of a graph and on the configuration of single nodes. Every rule is applied. A
broken rule is an error, which makes the graph invalid, or a warning, which does not.
-/

namespace Flowchart

namespace Graph

/-- What is wrong, or may be. -/
inductive Finding.Code where
  /-- No node starts the flow. -/
  | noStartNode
  /-- More than one node starts the flow. -/
  | multipleStartNodes
  /-- No node ends the flow. -/
  | noEndNode
  /-- A node without edges. -/
  | orphanNode
  /-- A node that no edge leaves. -/
  | noOutgoingConnection
  /-- A cycle. -/
  | circularDependency
  /-- A call without an address. -/
  | missingApiUrl
  /-- A question without a text. -/
  | missingPrompt
  /-- A condition without branches. -/
  | missingConditions
  /-- A configuration that cannot be read. -/
  | invalidConfig
deriving DecidableEq, Inhabited

namespace Finding.Code

/-- The codes. -/
def all : List Code :=
  [noStartNode, multipleStartNodes, noEndNode, orphanNode, noOutgoingConnection,
    circularDependency, missingApiUrl, missingPrompt, missingConditions, invalidConfig]

/-- How a code is written. -/
def text : Code → String
  | noStartNode => "NO_START_NODE"
  | multipleStartNodes => "MULTIPLE_START_NODES"
  | noEndNode => "NO_END_NODE"
  | orphanNode => "ORPHAN_NODE"
  | noOutgoingConnection => "NO_OUTGOING_CONNECTION"
  | circularDependency => "CIRCULAR_DEPENDENCY"
  | missingApiUrl => "MISSING_API_URL"
  | missingPrompt => "MISSING_PROMPT"
  | missingConditions => "MISSING_CONDITIONS"
  | invalidConfig => "INVALID_CONFIG"

/-- Reads a code. -/
def decoder : Json.Decoder Code :=
  .word "ValidationCode" (all.map fun c => (c.text, c))

end Finding.Code

/-- Something that a rule found. -/
structure Finding where
  /-- What it is. -/
  code : Finding.Code
  /-- What it says. -/
  message : String
  /-- The node it is about. -/
  node : Option String := none
deriving DecidableEq, Inhabited

namespace Finding

/-- The finding as a document. -/
def toJson (f : Finding) : Json :=
  .ofFields [
    ("code", some (.string f.code.text)),
    ("message", some (.string f.message)),
    ("nodeId", f.node.map .string)]

/-- Reads a finding. -/
def decoder : Json.Decoder Finding :=
  .record "ValidationFinding" [
    (.of "code" Code.decoder fun f v => { f with code := v } : Json.Decoder.Field Finding).need,
    (.of "message" .text fun f v => { f with message := v } : Json.Decoder.Field Finding).need,
    .of "nodeId" (.option .text) fun f v => { f with node := v }] default

end Finding

/-- What all rules found. -/
structure Validation where
  /-- There is no error. -/
  isValid : Bool := true
  /-- The errors, in order. -/
  errors : List Finding := []
  /-- The warnings, in order. -/
  warnings : List Finding := []
deriving DecidableEq, Inhabited

namespace Validation

/-- The codes of the errors. -/
def errorCodes (v : Validation) : List String :=
  v.errors.map (·.code.text)

/-- The result as a document. -/
def toJson (v : Validation) : Json :=
  .object [
    ("isValid", .bool v.isValid),
    ("errors", .array (v.errors.map (·.toJson))),
    ("warnings", .array (v.warnings.map (·.toJson)))]

/-- Reads a result. -/
def decoder : Json.Decoder Validation :=
  .record "ValidationResult" [
    (.of "isValid" .bool fun r v => { r with isValid := v } : Json.Decoder.Field Validation).need,
    (.of "errors" (.list Finding.decoder) fun r v => { r with errors := v } :
      Json.Decoder.Field Validation).need,
    (.of "warnings" (.list Finding.decoder) fun r v => { r with warnings := v } :
      Json.Decoder.Field Validation).need] default

end Validation

/-! ## The rules -/

/-- The flow needs a start. -/
def startErrors (g : Graph) : List Finding :=
  if g.nodes.any (·.isStart) then []
  else [{ code := .noStartNode, message := "Workflow must have at least one start node" }]

/-- Of several starts only the first one counts. -/
def startWarnings (g : Graph) : List Finding :=
  if g.nodes.countP (·.isStart) ≤ 1 then []
  else [{
    code := .multipleStartNodes
    message := "Workflow has multiple start nodes. Only the first one will be used." }]

/-- The flow needs an end. -/
def endErrors (g : Graph) : List Finding :=
  if g.nodes.any (·.isEnd) then []
  else [{ code := .noEndNode, message := "Workflow must have at least one end node" }]

/-- An edge leaves the node or arrives at it. -/
def isConnected (g : Graph) (id : String) : Bool :=
  g.edges.any fun e => e.source == id || e.target == id

/-- A node between start and end needs an edge. -/
def orphanWarnings (g : Graph) : List Finding :=
  (g.nodes.filter fun n => !n.isStart && !n.isEnd && !g.isConnected n.id).map fun n => {
    code := .orphanNode
    message := "Node '" ++ n.displayName ++ "' is not connected to any other nodes"
    node := some n.id }

/-- A node before the end needs an edge that leaves it. -/
def deadEndWarnings (g : Graph) : List Finding :=
  (g.nodes.filter fun n => !n.isEnd && !g.edges.any (·.source == n.id)).map fun n => {
    code := .noOutgoingConnection
    message := "Node '" ++ n.displayName ++ "' has no outgoing connections"
    node := some n.id }

/-- Cycles may run forever. -/
def cycleWarnings (g : Graph) : List Finding :=
  g.cycles.map fun c => {
    code := .circularDependency
    message := "Workflow contains a circular dependency: " ++ Cycle.render c }

/-- A text that has to be there is absent, blank or of another type. -/
def lacksText (c : NodeConfig) (key : String) : Bool :=
  match c.text? key with
  | .ok (some s) => Text.allBlank s
  | _ => true

/-- A condition has no branches that can be read. -/
def lacksBranches (c : NodeConfig) : Bool :=
  match Step.Branch.ofConfig? c with
  | .ok branches => branches.isEmpty
  | .error _ => true

/-- What is wrong with a node of its kind. -/
def Node.configErrors (n : Node) : List Finding :=
  match n.config? with
  | .error e => [{
      code := .invalidConfig
      message := "Node '" ++ n.displayName ++ "' has an unreadable configuration: " ++ e.message
      node := some n.id }]
  | .ok c =>
    if n.kind = "APICallNode" ∧ lacksText c "apiUrl" then [{
      code := .missingApiUrl
      message := "API Call node '" ++ n.displayName ++ "' is missing API URL"
      node := some n.id }]
    else if (n.kind = "ConditionNode" ∨ n.kind = "condition") ∧ lacksBranches c then [{
      code := .missingConditions
      message := "Condition node '" ++ n.displayName ++ "' has no condition branches defined"
      node := some n.id }]
    else []

/-- What may be wrong with a node of its kind. -/
def Node.configWarnings (n : Node) : List Finding :=
  match n.config? with
  | .error _ => []
  | .ok c =>
    if n.kind = "QuestionNode" ∧ lacksText c "promptText" then [{
      code := .missingPrompt
      message := "Question node '" ++ n.displayName ++ "' is missing prompt text"
      node := some n.id }]
    else []

/-- The errors of a graph: those of its shape, then those of its nodes. -/
def errors (g : Graph) : List Finding :=
  g.startErrors ++ g.endErrors ++ g.nodes.flatMap (·.configErrors)

/-- The warnings of a graph: those of its shape, then those of its nodes. -/
def warnings (g : Graph) : List Finding :=
  g.startWarnings ++ g.orphanWarnings ++ g.deadEndWarnings ++ g.cycleWarnings ++
    g.nodes.flatMap (·.configWarnings)

/-- Applies every rule to a graph. -/
def validate (g : Graph) : Validation :=
  let errors := g.errors
  { isValid := errors.isEmpty, errors, warnings := g.warnings }

end Graph

end Flowchart
