import Flowchart.Storage
import Flowchart.Workflow.Basic

/-!
# Stores of flows

The flows and their versions. A flow has one record, its versions have different numbers, and a new
active version takes the place of the one before. Updates and new versions pass a gate that may
refuse them.
-/

namespace Flowchart

/-- The flows and their versions, in the order in which they came in. -/
structure Workflow.Store where
  /-- The flows. -/
  flows : List Workflow := []
  /-- The versions of all flows. -/
  versions : List Workflow.Version := []
  /-- Which updates are refused. -/
  updates : Storage.Gate := {}
  /-- Which new versions are refused. -/
  publications : Storage.Gate := {}
deriving Inhabited

namespace Workflow

namespace Store

/-- The flow with an identifier. -/
def find? (st : Store) (id : Uuid) : Option Workflow :=
  st.flows.find? (·.id == id)

/-- The flows, the one that changed last first. -/
def list (st : Store) : List Workflow :=
  st.flows.mergeSort fun a b => b.updatedAt.le a.updatedAt

/-- Puts a new flow in. -/
def create (st : Store) (w : Workflow) : Except Storage.Error Workflow × Store :=
  if (st.find? w.id).isSome then (.error (.workflowExists w.id), st)
  else (.ok w, { st with flows := st.flows ++ [w] })

/-- Puts a flow in the place of the one with its identifier. -/
def replace (st : Store) (w : Workflow) : Except Storage.Error Workflow × Store :=
  if (st.find? w.id).isSome then
    (.ok w, { st with flows := st.flows.map fun v => if v.id = w.id then w else v })
  else (.error (.workflowNotFound w.id), st)

/-- Puts a flow in the place of the one with its identifier, unless the gate refuses. -/
def update (st : Store) (w : Workflow) : Except Storage.Error Workflow × Store :=
  match st.updates.pass with
  | (.ok (), updates) => replace { st with updates } w
  | (.error e, updates) => (.error e, { st with updates })

/-- Takes a flow out with its versions; tells whether it was there. -/
def delete (st : Store) (id : Uuid) : Bool × Store :=
  ((st.find? id).isSome, { st with
    flows := st.flows.filter (·.id != id)
    versions := st.versions.filter (·.workflowId != id) })

/-- The versions of a flow, the last one first. -/
def versionsOf (st : Store) (id : Uuid) : List Version :=
  (st.versions.filter (·.workflowId == id)).reverse

/-- A version with its number stands for a flow. -/
def hasVersion (st : Store) (id : Uuid) (number : String) : Bool :=
  st.versions.any fun v => v.workflowId == id && v.number == number

/-- The active version of a flow. -/
def activeVersion? (st : Store) (id : Uuid) : Option Version :=
  st.versions.find? fun v => v.workflowId == id && v.isActive

/-- Puts a version in; if it is active, it becomes the only active one of its flow. -/
def add (st : Store) (v : Version) : Except Storage.Error Version × Store :=
  if (st.find? v.workflowId).isNone then (.error (.workflowNotFound v.workflowId), st)
  else if st.hasVersion v.workflowId v.number then
    (.error (.versionExists v.workflowId v.number), st)
  else
    let before := st.versions.map fun u =>
      if v.isActive && u.workflowId == v.workflowId then { u with isActive := false } else u
    (.ok v, { st with versions := before ++ [v] })

/-- Puts a version in, unless the gate refuses. -/
def createVersion (st : Store) (v : Version) : Except Storage.Error Version × Store :=
  match st.publications.pass with
  | (.ok (), publications) => add { st with publications } v
  | (.error e, publications) => (.error e, { st with publications })

/-- Makes a version the only active one of its flow. -/
def activateVersion (st : Store) (id : Uuid) (number : String) :
    Except Storage.Error Version × Store :=
  if st.hasVersion id number then
    let versions := st.versions.map fun v =>
      if v.workflowId = id then { v with isActive := v.number == number } else v
    match versions.findRev? fun v => v.workflowId == id && v.isActive with
    | some v => (.ok v, { st with versions })
    | none => (.error (.versionNotFound id number), st)
  else (.error (.versionNotFound id number), st)

end Store

end Workflow

end Flowchart
