import Flowchart.Source.Connection

/-!
# Nodes of a source

A node is an object with a `type`. Five types have fields of their own; every other type is the kind
of some step, whose fields are kept as they are. What the type does not know is kept too, so that a
node can be written as it was read (`Node.toJson`, `Node.ofJson?`).
-/

namespace Flowchart

namespace Source

/-- Where a note lies on the canvas. -/
structure Position where
  /-- From the left. -/
  x : Binary64 := .zero
  /-- From the top. -/
  y : Binary64 := .zero
deriving DecidableEq, Inhabited

/-- What an agent can do. -/
structure Skill where
  /-- Its identifier. -/
  id : String := ""
  /-- Its name. -/
  name : String := ""
  /-- Its picture, empty for none. -/
  icon : String := ""
deriving DecidableEq, Inhabited

/-- What nodes of every type have. -/
structure Common where
  /-- The title. -/
  label : String := ""
  /-- The arrows that leave the node, in order. -/
  connections : List Connection := []
  /-- An instruction. -/
  prompt : Option String := none
  /-- The fields that its type does not know. -/
  extra : Json.Entries := []
deriving DecidableEq, Inhabited

/-- The type of a node with the fields that it knows. -/
inductive Detail where
  /-- Starts a flow. -/
  | trigger (key : String)
  /-- Runs a language model. -/
  | agent (skills : SortedMap Skill)
  /-- Runs an action of the host. -/
  | action (key : String)
  /-- Chooses between connections. -/
  | condition
  /-- A remark, somewhere on the canvas. -/
  | note (markdown : String) (position : Option Position)
  /-- A step of some other kind. -/
  | custom (kind : String)
deriving DecidableEq, Inhabited

/-- A node of a source. -/
structure Node where
  /-- Its type. -/
  detail : Detail
  /-- What every type has. -/
  common : Common := {}
deriving DecidableEq, Inhabited

/-! ## Parts as documents -/

/-- The position as a document. -/
def Position.toJson (p : Position) : Json :=
  .object [("x", .ofBinary p.x), ("y", .ofBinary p.y)]

/-- Reads a position. -/
def Position.decoder : Json.Decoder Position :=
  .record "Position" [
    .of "x" .float fun p v => { p with x := v },
    .of "y" .float fun p v => { p with y := v }] {}

/-- The skill as a document. -/
def Skill.toJson (s : Skill) : Json :=
  .ofFields [
    ("id", some (.string s.id)),
    ("name", some (.string s.name)),
    ("icon", if s.icon = "" then none else some (.string s.icon))]

/-- Reads a skill. -/
def Skill.decoder : Json.Decoder Skill :=
  .record "Skill" [
    .of "id" .text fun s v => { s with id := v },
    .of "name" .text fun s v => { s with name := v },
    .of "icon" .text fun s v => { s with icon := v }] {}

namespace Detail

/-- The `type` of a node. -/
def kind : Detail → String
  | trigger _ => "trigger"
  | agent _ => "agent"
  | action _ => "action"
  | condition => "condition"
  | note _ _ => "note"
  | custom kind => kind

/-- The fields that a type knows. -/
def known : Detail → List String
  | trigger _ => ["triggerKey"]
  | agent _ => ["skills"]
  | action _ => ["actionKey"]
  | condition => []
  | note _ _ => ["markdown", "position"]
  | custom _ => []

/-- The fields that a type knows, as entries. -/
def entries : Detail → Json.Entries
  | trigger key => [("triggerKey", .string key)]
  | agent skills => [("skills", .object (skills.entries.map fun e => (e.1, e.2.toJson)))]
  | action key => [("actionKey", .string key)]
  | condition => []
  | note markdown position =>
    ("markdown", .string markdown) :: (position.map fun p => ("position", p.toJson)).toList
  | custom _ => []

end Detail

namespace Common

/-- The names of the fields that nodes of every type have, apart from the type. -/
def known : List String :=
  ["label", "to", "prompt"]

/-- The common fields as entries, and after them what the type does not know. -/
def entries (c : Common) : Json.Entries :=
  (if c.label = "" then [] else [("label", .string c.label)]) ++
    ("to", .array (c.connections.map (·.toJson))) ::
    ((c.prompt.map fun p => ("prompt", .string p)).toList ++ c.extra)

/-- The common fields of an object. -/
def fields : List (Json.Decoder.Field Common) := [
  .of "label" .text fun c x => { c with label := x },
  .of "to" (.list Connection.decoder) fun c x => { c with connections := x },
  .of "prompt" (.option .text) fun c x => { c with prompt := x }]

end Common

namespace Node

/-- The `type` of the node. -/
def kind (n : Node) : String :=
  n.detail.kind

/-- Where the node lies, if it says so. -/
def position? (n : Node) : Option Position :=
  match n.detail with
  | .note _ position => position
  | _ => none

/-- The node as a document, its type first. -/
def toJson (n : Node) : Json :=
  .object (("type", .string n.kind) :: (n.common.entries ++ n.detail.entries))

/-! ## Reading a node -/

/-- Why a document is no node. -/
inductive Error where
  /-- It is no object. -/
  | notAnObject
  /-- Its type is no text. -/
  | typeNotText (found : Json)
  /-- One of the fields that its type knows is wrong. -/
  | mismatch (mismatch : Json.Mismatch)
deriving DecidableEq

/-- The wording of the failure. -/
def Error.message : Error → String
  | .notAnObject => "node definition must be a JSON object"
  | .typeNotText found => "'type' must be a string, found " ++ found.compact
  | .mismatch m => m.message

/-- Reads fields into a record from the entries of an object. -/
def readFields {ρ : Type} (fields : List (Json.Decoder.Field ρ)) (scope : Json.Scope) (start : ρ)
    (es : Json.Entries) : Except Json.Mismatch ρ :=
  Json.Decoder.readEntries fields scope [] start (Json.Raw.ofEntries es)

/-- Reads the fields that a type knows. -/
def readDetail (kind : String) (es : Json.Entries) : Except Json.Mismatch Detail :=
  match kind with
  | "trigger" => (readFields [.of "triggerKey" .text fun _ x => x] {} "" es).map .trigger
  | "agent" =>
    (readFields [.of "skills" (.map Skill.decoder) fun _ x => x] {} .empty es).map .agent
  | "action" => (readFields [.of "actionKey" .text fun _ x => x] {} "" es).map .action
  | "condition" => .ok .condition
  | "note" =>
    (readFields [
      .of "markdown" .text fun r x => (x, r.2),
      .of "position" (.option Position.decoder) fun r x => (r.1, x)] {} ("", none) es).map
        fun r => .note r.1 r.2
  | kind => .ok (.custom kind)

/-- The fields of an object that a type does not know. -/
def unknownTo (d : Detail) (es : Json.Entries) : Json.Entries :=
  es.filter fun e => !(Common.known.contains e.1 || d.known.contains e.1)

/-- Reads a node whose type is known from the rest of its entries: first what its type knows, then
what all nodes have. The latter was set aside if the type knows any field. -/
def ofEntries? (kind : String) (es : Json.Entries) : Except Json.Mismatch Node := do
  let detail ← readDetail kind es
  let common ← readFields Common.fields { aside := !detail.known.isEmpty } {} es
  return { detail, common := { common with extra := unknownTo detail es } }

/-- The type of an object: none is the empty one. -/
def typeOf? (es : Json.Entries) : Except Error String :=
  match Json.Entries.find? "type" es with
  | none | some .null => .ok ""
  | some (.string s) => .ok s
  | some found => .error (.typeNotText found)

/-- Reads a node. Taking the type out of the object puts the last entry in its place. -/
def ofJson? : Json → Except Error Node
  | .object es =>
    match typeOf? es with
    | .error e => .error e
    | .ok kind => (ofEntries? kind (Json.Entries.removeSwapping "type" es)).mapError .mismatch
  | _ => .error .notAnObject

end Node

end Source

end Flowchart
