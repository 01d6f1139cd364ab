import Flowchart.NodeConfig
import Flowchart.Source.Connection

/-!
# Branches of a condition

A condition node lists its branches, or has one branch for each of its connections. The label of a
connection is then both what is tested and the port, and an empty label, `else` or `default` marks
the branch that is taken when no test holds.
-/

namespace Flowchart

namespace Step

/-- One way out of a condition. -/
structure Branch where
  /-- What is tested. -/
  condition : String := ""
  /-- The port through which the branch leaves. -/
  port : String := ""
  /-- The name of the branch. -/
  label : Option String := none
  /-- Taken when no test holds. -/
  isDefault : Bool := false
  /-- The node the branch leads to, if it does not go by its port. -/
  target : Option String := none
deriving DecidableEq, Inhabited

namespace Branch

/-- The branch as a document. -/
def toJson (b : Branch) : Json :=
  .ofFields [
    ("condition", some (.string b.condition)),
    ("port", some (.string b.port)),
    ("label", b.label.map .string),
    ("isDefault", some (.bool b.isDefault)),
    ("targetNodeId", b.target.map .string)]

/-- Reads a branch. -/
def decoder : Json.Decoder Branch :=
  .record "Branch" [
    .of "condition" .text fun b x => { b with condition := x },
    .of "port" .text fun b x => { b with port := x },
    .of "label" (.option .text) fun b x => { b with label := x },
    .of "isDefault" .bool fun b x => { b with isDefault := x },
    .of "targetNodeId" (.option .text) fun b x => { b with target := x }] {}

/-- The label of a branch that is taken when no test holds. -/
def marksDefault (label : String) : Bool :=
  let word := Text.trim label
  word == "" || Text.sameWord word "else" || Text.sameWord word "default"

/-- The branch of a connection. -/
def ofConnection (c : Source.Connection) : Branch :=
  let label := c.label.getD ""
  { condition := label
    port := c.sourcePort.getD label
    label := some label
    isDefault := marksDefault label
    target := some c.target }

/-- Reads a sequence under a key of a configuration. -/
def readList? {α : Type} (c : NodeConfig) (key : String) (d : Json.Decoder α) :
    Except NodeConfig.Error (Option (List α)) :=
  match c.array? key with
  | .error e => .error e
  | .ok none => .ok none
  | .ok (some xs) =>
    match Json.Decoder.ofJson (.list d) (.array xs) with
    | .ok values => .ok (some values)
    | .error m => .error (.unreadable key m)

/-- The branches of a condition: those it lists, else one for each connection. -/
def ofConfig? (c : NodeConfig) : Except NodeConfig.Error (List Branch) := do
  match ← readList? c "branches" decoder with
  | some branches => return branches
  | none =>
    let connections ← readList? c "to" Source.Connection.decoder
    return (connections.getD []).map ofConnection

end Branch

end Step

end Flowchart
