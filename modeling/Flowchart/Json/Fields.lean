import Flowchart.Instant
import Flowchart.Json.Decoder
import Flowchart.StateMap
import Flowchart.Uuid

/-!
# Fields of records

What the records of this library share: fields that are left out when they hold nothing, and fields
that hold identifiers, points in time and states.
-/

namespace Flowchart

namespace Json

/-- An object with the fields that are there. -/
def ofFields (fields : List (String × Option Json)) : Json :=
  .object (fields.filterMap fun (key, value?) => value?.map fun value => (key, value))

/-- A natural number. -/
def ofNat (n : Nat) : Json :=
  ofInt n

/-- An identifier, as its text. -/
def ofUuid (id : Uuid) : Json :=
  .string id.toText

/-- A point in time, as its text. -/
def ofInstant (t : Instant) : Json :=
  .string t.toText

/-- A binary number. -/
def ofBinary (x : Binary64) : Json :=
  .number (.float x)

namespace Decoder

/-- An identifier. -/
def uuid : Decoder Uuid :=
  ofText Uuid.ofText? .noUuid

/-- A point in time. -/
def instant : Decoder Instant :=
  ofText Instant.ofText? .noInstant

/-- A state. -/
def state : Decoder StateMap :=
  map document

end Decoder

end Json

end Flowchart
