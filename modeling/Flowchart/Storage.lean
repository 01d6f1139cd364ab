import Flowchart.Uuid

/-!
# Storage

What all stores share: why one turns down what is asked of it, and gates, which may refuse single
writes. A refused write leaves the store as it was.
-/

namespace Flowchart

namespace Storage

/-- Why a store turns something down. -/
inductive Error where
  /-- There is no such flow. -/
  | workflowNotFound (id : Uuid)
  /-- There is such a flow already. -/
  | workflowExists (id : Uuid)
  /-- The flow has such a version already. -/
  | versionExists (id : Uuid) (version : String)
  /-- The flow has no such version. -/
  | versionNotFound (id : Uuid) (version : String)
  /-- What keeps the records refused. -/
  | backend (reason : String)
deriving DecidableEq

/-- The wording of the refusal. -/
def Error.message : Error → String
  | workflowNotFound id => "workflow not found: " ++ id.toText
  | workflowExists id => "workflow already exists: " ++ id.toText
  | versionExists id version =>
    "version " ++ version ++ " already exists for workflow " ++ id.toText
  | versionNotFound id version => "version " ++ version ++ " not found for workflow " ++ id.toText
  | backend reason => "store backend error: " ++ reason

/-- Lets writes through or refuses them, by their number. -/
structure Gate where
  /-- Why the write with a number is refused, if it is. -/
  refusal : Nat → Option String := fun _ => none
  /-- How many writes have been tried. -/
  tried : Nat := 0

instance : Inhabited Gate := ⟨{}⟩

/-- The next write comes to the gate. -/
def Gate.pass (g : Gate) : Except Error Unit × Gate :=
  (match g.refusal g.tried with
    | some reason => .error (.backend reason)
    | none => .ok (), { g with tried := g.tried + 1 })

end Storage

end Flowchart
