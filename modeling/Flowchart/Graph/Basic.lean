import Flowchart.Json.Fields
import Flowchart.NodeConfig

/-!
# Graphs

A graph is what a session runs through: nodes and edges in the order of their declaration. Looking
up a node, the start or the way out of a node always takes the first that fits, so a graph leads
every session the same way.
-/

namespace Flowchart

/-- A node of a graph. -/
structure Graph.Node where
  /-- The flow it belongs to. -/
  workflowId : Uuid
  /-- Its identifier within the flow. -/
  id : String
  /-- The kind of step it is. -/
  kind : String
  /-- Its title. -/
  label : String := ""
  /-- Its place from the left. -/
  x : Binary64 := .zero
  /-- Its place from the top. -/
  y : Binary64 := .zero
  /-- The text of its configuration. -/
  payload : String := ""
deriving DecidableEq, Inhabited

/-- An edge between two nodes of a graph. -/
structure Graph.Edge where
  /-- The flow it belongs to. -/
  workflowId : Uuid
  /-- Its identifier, a new one whenever a graph is made. -/
  id : Uuid
  /-- The node it leaves. -/
  source : String
  /-- The node it arrives at. -/
  target : String
  /-- The port it leaves through. -/
  sourcePort : Option String := none
  /-- The port it arrives at. -/
  targetPort : Option String := none
  /-- The text beside it. -/
  label : Option String := none
deriving DecidableEq, Inhabited

/-- The nodes and edges of a flow, in order. -/
structure Graph where
  /-- The nodes. -/
  nodes : List Graph.Node := []
  /-- The edges. -/
  edges : List Graph.Edge := []
deriving DecidableEq, Inhabited

namespace Graph

/-- Nodes of this kind start a flow. -/
def isStartKind (kind : String) : Bool :=
  Text.occurs "Start".toList kind.toList

/-- Nodes of this kind end a flow. -/
def isEndKind (kind : String) : Bool :=
  Text.occurs "End".toList kind.toList

namespace Node

/-- The node starts a flow. -/
def isStart (n : Node) : Bool :=
  isStartKind n.kind

/-- The node ends a flow. -/
def isEnd (n : Node) : Bool :=
  isEndKind n.kind

/-- The configuration of the node. -/
def config? (n : Node) : Except NodeConfig.Error NodeConfig :=
  NodeConfig.ofText? n.payload

/-- What messages call the node: its title, or its identifier if it has none. -/
def displayName (n : Node) : String :=
  if n.label = "" then n.id else n.label

end Node

/-- The edge leaves through a port. Every edge leaves through no port and through the empty one. -/
def Edge.leavesThrough (e : Edge) : Option String → Bool
  | none => true
  | some port => port == "" || e.sourcePort == some port

/-- The first node with an identifier. -/
def node? (g : Graph) (id : String) : Option Node :=
  g.nodes.find? (·.id == id)

/-- Where the flow starts: at its first start node, else at the node that is named `start`. -/
def start? (g : Graph) : Option Node :=
  g.nodes.find? (·.isStart) <|> g.node? "start"

/-- The edges that leave a node. -/
def outgoing (g : Graph) (id : String) : List Edge :=
  g.edges.filter (·.source == id)

/-- The first edge that leaves a node through a port. -/
def wayOut? (g : Graph) (id : String) (port : Option String) : Option Edge :=
  (g.outgoing id).find? (·.leavesThrough port)

/-! ## Written form -/

/-- The node as a document. -/
def Node.toJson (n : Node) : Json :=
  .object [
    ("workflowId", .ofUuid n.workflowId),
    ("nodeId", .string n.id),
    ("nodeKind", .string n.kind),
    ("label", .string n.label),
    ("positionX", .ofBinary n.x),
    ("positionY", .ofBinary n.y),
    ("configPayload", .string n.payload)]

/-- Reads a node. -/
def Node.decoder : Json.Decoder Node :=
  .record "CompiledNode" [
    (.of "workflowId" .uuid fun n v => { n with workflowId := v } : Json.Decoder.Field Node).need,
    (.of "nodeId" .text fun n v => { n with id := v } : Json.Decoder.Field Node).need,
    (.of "nodeKind" .text fun n v => { n with kind := v } : Json.Decoder.Field Node).need,
    (.of "label" .text fun n v => { n with label := v } : Json.Decoder.Field Node).need,
    (.of "positionX" .float fun n v => { n with x := v } : Json.Decoder.Field Node).need,
    (.of "positionY" .float fun n v => { n with y := v } : Json.Decoder.Field Node).need,
    (.of "configPayload" .text fun n v => { n with payload := v } :
      Json.Decoder.Field Node).need] default

/-- The edge as a document. -/
def Edge.toJson (e : Edge) : Json :=
  .ofFields [
    ("workflowId", some (.ofUuid e.workflowId)),
    ("edgeId", some (.ofUuid e.id)),
    ("sourceNodeId", some (.string e.source)),
    ("targetNodeId", some (.string e.target)),
    ("sourcePort", e.sourcePort.map .string),
    ("targetPort", e.targetPort.map .string),
    ("label", e.label.map .string)]

/-- Reads an edge. -/
def Edge.decoder : Json.Decoder Edge :=
  .record "CompiledEdge" [
    (.of "workflowId" .uuid fun e v => { e with workflowId := v } : Json.Decoder.Field Edge).need,
    (.of "edgeId" .uuid fun e v => { e with id := v } : Json.Decoder.Field Edge).need,
    (.of "sourceNodeId" .text fun e v => { e with source := v } : Json.Decoder.Field Edge).need,
    (.of "targetNodeId" .text fun e v => { e with target := v } : Json.Decoder.Field Edge).need,
    .of "sourcePort" (.option .text) fun e v => { e with sourcePort := v },
    .of "targetPort" (.option .text) fun e v => { e with targetPort := v },
    .of "label" (.option .text) fun e v => { e with label := v }] default

end Graph

end Flowchart
