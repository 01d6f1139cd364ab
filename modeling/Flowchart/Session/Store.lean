import Flowchart.Session.Basic
import Flowchart.Storage

/-!
# Stores of sessions

The sessions under their identifiers. To put a session in replaces the one with its identifier,
unless the gate of the store refuses.
-/

namespace Flowchart

/-- The sessions under their identifiers. -/
structure Session.Store where
  /-- The sessions. -/
  sessions : SortedMap Session := .empty
  /-- Which writes are refused. -/
  gate : Storage.Gate := {}
deriving Inhabited

namespace Session

namespace Store

/-- The session with an identifier. -/
def find? (st : Store) (id : String) : Option Session :=
  st.sessions.find? id

/-- Puts a session in, under its own identifier. -/
def put (st : Store) (s : Session) : Except Storage.Error Unit × Store :=
  match st.gate.pass with
  | (.ok (), gate) => (.ok (), { sessions := st.sessions.insert s.id s, gate })
  | (.error e, gate) => (.error e, { st with gate })

/-- A session that the gate lets through is put in. -/
theorem put_of_pass {st : Store} (h : st.gate.refusal st.gate.tried = none) (s : Session) :
    st.put s = (.ok (), {
      sessions := st.sessions.insert s.id s
      gate := { st.gate with tried := st.gate.tried + 1 } }) := by
  rw [put, Storage.Gate.pass, h]

/-- A session that the gate refuses leaves the others as they are. -/
theorem put_of_refusal {st : Store} {reason : String}
    (h : st.gate.refusal st.gate.tried = some reason) (s : Session) :
    st.put s = (.error (.backend reason), {
      sessions := st.sessions
      gate := { st.gate with tried := st.gate.tried + 1 } }) := by
  rw [put, Storage.Gate.pass, h]

/-- Takes a session out. -/
def remove (st : Store) (id : String) : Option Session × Store :=
  (st.find? id, { st with sessions := st.sessions.erase id })

/-- How many sessions there are. -/
def size (st : Store) : Nat :=
  st.sessions.size

end Store

end Session

end Flowchart
