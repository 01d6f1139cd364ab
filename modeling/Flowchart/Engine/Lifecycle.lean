import Flowchart.Engine.Basic
import Flowchart.Graph.Compile
import Flowchart.Graph.Validation

/-!
# The life of a flow

To make, change, delete, validate and publish flows, and to choose between their versions. The graph
of a flow is made anew with every new source. What succeeds leaves one entry in the log, and what
fails leaves none.
-/

namespace Flowchart

namespace Engine

/-- Why something is not done to a flow. -/
inductive Error where
  /-- The source makes no graph. -/
  | source (e : Source.Error)
  /-- The store turns it down. -/
  | storage (e : Storage.Error)
  /-- The graph has errors. -/
  | validationFailed (codes : List String)
deriving DecidableEq

/-- The wording of the failure. -/
def Error.message : Error → String
  | source e => e.message
  | storage e => e.message
  | validationFailed codes => "workflow has validation errors: " ++ ", ".intercalate codes

/-- The flow with an identifier, which has to be there. -/
def require (e : Engine) (id : Uuid) : Except Error Workflow :=
  match e.flows.find? id with
  | some w => .ok w
  | none => .error (.storage (.workflowNotFound id))

/-- An entry of the log about a flow. -/
def entry (id : Uuid) (action : Audit.Action) (user : String) (clock : Clock) (details : Json) :
    Audit.Entry :=
  { workflowId := id, action, timestamp := clock.now, userId := user, details }

/-- What the log tells of a flow that was made or changed. -/
def nameOf (w : Workflow) : Json :=
  .object [("name", .string w.name)]

/-- The engine after an answer of the store of flows, with an entry if it did what was asked. -/
def settle {α : Type} (e : Engine) (note : α → Audit.Entry) :
    Except Storage.Error α × Workflow.Store → Except Error α × Engine
  | (.ok a, flows) => (.ok a, { e with flows }.log (note a))
  | (.error err, flows) => (.error (.storage err), { e with flows })

/-- Makes a flow of a draft. Nothing is kept if its source makes no graph. -/
def create (e : Engine) (d : Workflow.Draft) (user : String) (clock : Clock) :
    Except Error Workflow × Engine :=
  let id := d.id.getD e.ids.next
  let ids := if d.id.isNone then e.ids.skip 1 else e.ids
  match Graph.ofText? ids.ahead id d.source with
  | .error err => (.error (.source err), e)
  | .ok graph =>
    let w : Workflow := {
      id
      name := d.name
      description := d.description
      source := d.source
      graph
      createdBy := user
      createdAt := clock.now
      updatedAt := clock.now }
    settle { e with ids := ids.skip graph.edges.length }
      (fun w => entry id .created user clock (nameOf w)) (e.flows.create w)

/-- A flow with a new source and its graph, or as it is if there is no new source. -/
def withSource (e : Engine) (w : Workflow) (source : Option String) :
    Except Error (Workflow × IdSource) :=
  match source with
  | none => .ok (w, e.ids)
  | some source =>
    match Graph.ofText? e.ids.ahead w.id source with
    | .error err => .error (.source err)
    | .ok graph => .ok ({ w with source, graph }, e.ids.skip graph.edges.length)

/-- Changes a flow. -/
def update (e : Engine) (id : Uuid) (c : Workflow.Change) (user : String) (clock : Clock) :
    Except Error Workflow × Engine :=
  match (e.require id).bind fun w => e.withSource w c.source with
  | .error err => (.error err, e)
  | .ok (w, ids) =>
    let w := { w with
      name := c.name.getD w.name
      description := c.description.getD w.description
      updatedAt := clock.now }
    settle { e with ids } (fun w => entry id .updated user clock (nameOf w)) (e.flows.update w)

/-- Deletes a flow with its versions; tells whether it was there. -/
def delete (e : Engine) (id : Uuid) (user : String) (clock : Clock) : Bool × Engine :=
  match e.flows.delete id with
  | (true, flows) => (true, { e with flows }.log (entry id .deleted user clock .null))
  | (false, flows) => (false, { e with flows })

/-- Applies every rule to the graph of a flow. -/
def validate (e : Engine) (id : Uuid) : Except Error Graph.Validation :=
  (e.require id).map fun w => w.graph.validate

/-- What the log tells of a version that was published. -/
def notesOf (v : Workflow.Version) : Json :=
  .object [("versionNumber", .string v.number), ("changeNotes", .string v.notes)]

/-- Marks a flow as published and keeps a version of it. If the version is refused, the flow is put
back as it was. -/
def putVersion (st : Workflow.Store) (w : Workflow) (v : Workflow.Version) (clock : Clock) :
    Except Storage.Error Workflow.Version × Workflow.Store :=
  match st.update { w with isPublished := true, updatedAt := clock.now } with
  | (.error err, st) => (.error err, st)
  | (.ok _, st) =>
    match st.createVersion v with
    | (.ok v, st) => (.ok v, st)
    | (.error err, st) => (.error err, (st.update w).2)

/-- Publishes the present source of a flow as its active version, unless its graph has errors. -/
def publish (e : Engine) (id : Uuid) (number notes user : String) (clock : Clock) :
    Except Error Workflow.Version × Engine :=
  match e.require id with
  | .error err => (.error err, e)
  | .ok w =>
    let validation := w.graph.validate
    if validation.isValid then
      let v : Workflow.Version := {
        id := e.ids.next
        workflowId := id
        number
        snapshot := w.source
        notes
        isActive := true
        createdBy := user
        createdAt := clock.now }
      settle { e with ids := e.ids.skip 1 }
        (fun v => entry id .published user clock (notesOf v)) (putVersion e.flows w v clock)
    else (.error (.validationFailed validation.errorCodes), e)

/-- Makes a version the active one of its flow. -/
def activateVersion (e : Engine) (id : Uuid) (number user : String) (clock : Clock) :
    Except Error Workflow.Version × Engine :=
  settle e
    (fun v => entry id .versionActivated user clock (.object [("versionNumber", .string v.number)]))
    (e.flows.activateVersion id number)

end Engine

end Flowchart
