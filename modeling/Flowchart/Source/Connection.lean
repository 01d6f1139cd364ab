import Flowchart.Json.Fields

/-!
# Connections

A connection leads from the node that lists it to another one. Its label is shown beside the arrow;
on a condition it is also what is tested and the port through which the edge leaves.
-/

namespace Flowchart

namespace Source

/-- An arrow to another node, as its node lists it. -/
structure Connection where
  /-- The node it leads to. -/
  target : String := ""
  /-- The text beside the arrow. -/
  label : Option String := none
  /-- The port it leaves through, if it is not the label. -/
  sourcePort : Option String := none
  /-- The port it arrives at. -/
  targetPort : Option String := none
deriving DecidableEq, Inhabited

namespace Connection

/-- The connection as a document. -/
def toJson (c : Connection) : Json :=
  .ofFields [
    ("id", some (.string c.target)),
    ("prompt", c.label.map .string),
    ("sourcePort", c.sourcePort.map .string),
    ("targetPort", c.targetPort.map .string)]

/-- Reads a connection. -/
def decoder : Json.Decoder Connection :=
  .record "Connection" [
    (.of "id" .text fun c x => { c with target := x } : Json.Decoder.Field Connection).alsoNamed
      "targetNodeId",
    (.of "prompt" (.option .text) fun c x => { c with label := x } :
      Json.Decoder.Field Connection).alsoNamed "portLabel",
    .of "sourcePort" (.option .text) fun c x => { c with sourcePort := x },
    .of "targetPort" (.option .text) fun c x => { c with targetPort := x }] {}

end Connection

end Source

end Flowchart
