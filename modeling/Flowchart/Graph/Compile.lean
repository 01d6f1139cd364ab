import Flowchart.Graph.Basic
import Flowchart.Source

/-!
# From sources to graphs

Every entry of a source becomes one node and every connection one edge, in the order in which they
are declared. The configuration of a node is the node itself, written as a document, so nothing of
it is lost. The edges take the identifiers that are handed in, one after another.
-/

namespace Flowchart

namespace Graph

/-- The node of an entry. -/
def Node.ofSource (workflowId : Uuid) (id : String) (n : Source.Node) : Node :=
  let position := n.position?.getD {}
  { workflowId
    id
    kind := n.kind
    label := n.common.label
    x := position.x
    y := position.y
    payload := n.toJson.compact }

/-- The port through which a connection leaves: its own, else its label if there is one. -/
def portOf (c : Source.Connection) : Option String :=
  c.sourcePort <|> c.label.filter (· ≠ "")

/-- The edge of a connection. -/
def Edge.ofConnection (workflowId : Uuid) (source : String) (id : Uuid) (c : Source.Connection) :
    Edge where
  workflowId
  id
  source
  target := c.target
  sourcePort := portOf c
  targetPort := c.targetPort
  label := c.label

/-- The connections of a source with the nodes that list them, in order. -/
def connections (s : Source) : List (String × Source.Connection) :=
  s.nodes.flatMap fun n => n.2.common.connections.map fun c => (n.1, c)

/-- The graph of a source; its edges are given the identifiers `ids 0`, `ids 1` and so on. -/
def ofSource (ids : Nat → Uuid) (workflowId : Uuid) (s : Source) : Graph where
  nodes := s.nodes.map fun n => .ofSource workflowId n.1 n.2
  edges := (connections s).mapIdx fun i c => .ofConnection workflowId c.1 (ids i) c.2

/-- The graph of the text of a source. -/
def ofText? (ids : Nat → Uuid) (workflowId : Uuid) (text : String) : Except Source.Error Graph :=
  (Source.ofText? text).map (ofSource ids workflowId)

end Graph

end Flowchart
