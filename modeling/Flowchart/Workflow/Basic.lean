import Flowchart.Graph.Basic

/-!
# Flows

A flow is a source with the graph that was made of it. Publishing a flow keeps a copy of its source
as a version, and of the versions of a flow one is active.
-/

namespace Flowchart

/-- A stored flow. -/
structure Workflow where
  /-- Its identifier. -/
  id : Uuid
  /-- Its name. -/
  name : String
  /-- What it is for. -/
  description : String := ""
  /-- The text of its source. -/
  source : String
  /-- The graph of the source. -/
  graph : Graph
  /-- It has been published. -/
  isPublished : Bool := false
  /-- Who made it. -/
  createdBy : String
  /-- When it was made. -/
  createdAt : Instant
  /-- When it changed last. -/
  updatedAt : Instant
deriving DecidableEq, Inhabited

/-- A flow that is to be made. -/
structure Workflow.Draft where
  /-- Its identifier; a new one is drawn if there is none. -/
  id : Option Uuid := none
  /-- Its name. -/
  name : String
  /-- What it is for. -/
  description : String := ""
  /-- The text of its source. -/
  source : String
deriving DecidableEq, Inhabited

/-- A change of a flow. What is absent stays. -/
structure Workflow.Change where
  /-- The new name. -/
  name : Option String := none
  /-- The new description. -/
  description : Option String := none
  /-- The text of the new source. -/
  source : Option String := none
deriving DecidableEq, Inhabited

/-- A published copy of the source of a flow. -/
structure Workflow.Version where
  /-- Its identifier. -/
  id : Uuid
  /-- The flow. -/
  workflowId : Uuid
  /-- Its number, which may be any text. -/
  number : String
  /-- The text of the source. -/
  snapshot : String
  /-- What was changed. -/
  notes : String := ""
  /-- It is the active one. -/
  isActive : Bool
  /-- Who published it. -/
  createdBy : String
  /-- When it was published. -/
  createdAt : Instant
deriving DecidableEq, Inhabited

namespace Workflow

/-- The flow as a document. -/
def toJson (w : Workflow) : Json :=
  .object [
    ("id", .ofUuid w.id),
    ("name", .string w.name),
    ("description", .string w.description),
    ("graphSource", .string w.source),
    ("nodes", .array (w.graph.nodes.map (·.toJson))),
    ("edges", .array (w.graph.edges.map (·.toJson))),
    ("isPublished", .bool w.isPublished),
    ("createdBy", .string w.createdBy),
    ("createdAt", .ofInstant w.createdAt),
    ("updatedAt", .ofInstant w.updatedAt)]

/-- Reads a flow. -/
def decoder : Json.Decoder Workflow :=
  .record "Workflow" [
    (.of "id" .uuid fun w v => { w with id := v } : Json.Decoder.Field Workflow).need,
    (.of "name" .text fun w v => { w with name := v } : Json.Decoder.Field Workflow).need,
    .of "description" .text fun w v => { w with description := v },
    (.of "graphSource" .text fun w v => { w with source := v } : Json.Decoder.Field Workflow).need,
    (.of "nodes" (.list Graph.Node.decoder) fun w v =>
      { w with graph := { w.graph with nodes := v } } : Json.Decoder.Field Workflow).need,
    (.of "edges" (.list Graph.Edge.decoder) fun w v =>
      { w with graph := { w.graph with edges := v } } : Json.Decoder.Field Workflow).need,
    .of "isPublished" .bool fun w v => { w with isPublished := v },
    (.of "createdBy" .text fun w v => { w with createdBy := v } :
      Json.Decoder.Field Workflow).need,
    (.of "createdAt" .instant fun w v => { w with createdAt := v } :
      Json.Decoder.Field Workflow).need,
    (.of "updatedAt" .instant fun w v => { w with updatedAt := v } :
      Json.Decoder.Field Workflow).need] default

/-- The draft as a document. -/
def Draft.toJson (d : Draft) : Json :=
  .object [
    ("id", (d.id.map Json.ofUuid).getD .null),
    ("name", .string d.name),
    ("description", .string d.description),
    ("graphSource", .string d.source)]

/-- Reads a draft. -/
def Draft.decoder : Json.Decoder Draft :=
  .record "NewWorkflow" [
    .of "id" (.option .uuid) fun d v => { d with id := v },
    (.of "name" .text fun d v => { d with name := v } : Json.Decoder.Field Draft).need,
    .of "description" .text fun d v => { d with description := v },
    (.of "graphSource" .text fun d v => { d with source := v } : Json.Decoder.Field Draft).need]
    default

/-- The change as a document. -/
def Change.toJson (c : Change) : Json :=
  .object [
    ("name", .textOrNull c.name),
    ("description", .textOrNull c.description),
    ("graphSource", .textOrNull c.source)]

/-- Reads a change. -/
def Change.decoder : Json.Decoder Change :=
  .record "WorkflowUpdate" [
    .of "name" (.option .text) fun c v => { c with name := v },
    .of "description" (.option .text) fun c v => { c with description := v },
    .of "graphSource" (.option .text) fun c v => { c with source := v }] {}

/-- The version as a document. -/
def Version.toJson (v : Version) : Json :=
  .object [
    ("id", .ofUuid v.id),
    ("workflowId", .ofUuid v.workflowId),
    ("versionNumber", .string v.number),
    ("graphSnapshot", .string v.snapshot),
    ("changeNotes", .string v.notes),
    ("isActive", .bool v.isActive),
    ("createdBy", .string v.createdBy),
    ("createdAt", .ofInstant v.createdAt)]

/-- Reads a version. -/
def Version.decoder : Json.Decoder Version :=
  .record "WorkflowVersion" [
    (.of "id" .uuid fun r v => { r with id := v } : Json.Decoder.Field Version).need,
    (.of "workflowId" .uuid fun r v => { r with workflowId := v } :
      Json.Decoder.Field Version).need,
    (.of "versionNumber" .text fun r v => { r with number := v } :
      Json.Decoder.Field Version).need,
    (.of "graphSnapshot" .text fun r v => { r with snapshot := v } :
      Json.Decoder.Field Version).need,
    .of "changeNotes" .text fun r v => { r with notes := v },
    (.of "isActive" .bool fun r v => { r with isActive := v } : Json.Decoder.Field Version).need,
    (.of "createdBy" .text fun r v => { r with createdBy := v } : Json.Decoder.Field Version).need,
    (.of "createdAt" .instant fun r v => { r with createdAt := v } :
      Json.Decoder.Field Version).need] default

end Workflow

end Flowchart
