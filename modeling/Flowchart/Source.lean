import Flowchart.Source.Node

/-!
# Sources

A source is what an editor saves: an object of nodes under their identifiers. It is read as a whole
or not at all, and the nodes keep the order in which they are declared.
-/

namespace Flowchart

/-- The nodes under their identifiers, in the order of their declaration. -/
structure Source where
  /-- The nodes. -/
  nodes : List (String × Source.Node) := []
deriving DecidableEq, Inhabited

namespace Source

/-- Why a text is no source. -/
inductive Error where
  /-- It is no document. -/
  | notJson
  /-- It is no object. -/
  | notANodeMap
  /-- One of the nodes is wrong. -/
  | invalidNode (id : String) (reason : Node.Error)
deriving DecidableEq

/-- The wording of the failure. -/
def Error.message : Error → String
  | .notJson => "failed to parse graph JSON: the text is no document"
  | .notANodeMap => "graph source must be a JSON object of node id to node definition"
  | .invalidNode id reason => "node '" ++ id ++ "' is invalid: " ++ reason.message

/-- How many nodes there are. -/
def size (s : Source) : Nat :=
  s.nodes.length

/-- The source as a document. -/
def toJson (s : Source) : Json :=
  .object (s.nodes.map fun n => (n.1, n.2.toJson))

/-- Reads the nodes one after another; the first one that is wrong counts. -/
def readNodes : Json.Entries → Except Error (List (String × Node))
  | [] => .ok []
  | (id, j) :: es =>
    match Node.ofJson? j with
    | .error e => .error (.invalidNode id e)
    | .ok node => (readNodes es).map ((id, node) :: ·)

/-- Reads a source from a document. -/
def ofJson? : Json → Except Error Source
  | .object es => (readNodes es).map fun nodes => { nodes }
  | _ => .error .notANodeMap

/-- Reads a source from a text. -/
def ofText? (text : String) : Except Error Source :=
  match Json.ofText? text with
  | some j => ofJson? j
  | none => .error .notJson

end Source

end Flowchart
