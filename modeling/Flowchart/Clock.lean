import Flowchart.Instant

/-!
# The present

A call takes place at one moment, and each of its steps at a moment of its own. A moment has the
time that is recorded and the text by which a step writes it down.
-/

namespace Flowchart

/-- A moment. -/
structure Moment where
  /-- The time that is recorded. -/
  now : Instant
  /-- How a step writes it. -/
  stamp : String := now.toText
deriving DecidableEq, Inhabited

/-- The clock of a call. -/
structure Clock extends Moment where
  /-- The moments of steps, by the number of steps that their session has behind it. A clock stands
  still unless it is said how it goes on. -/
  moment : Nat → Moment := fun _ => toMoment
deriving Inhabited

end Flowchart
