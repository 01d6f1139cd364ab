import Flowchart.Audit
import Flowchart.Clock
import Flowchart.Session.Store
import Flowchart.Settings
import Flowchart.Step.Registry
import Flowchart.Workflow.Store

/-!
# Engines

An engine keeps flows, sessions and a log of what was done, and runs the flows it keeps.
-/

namespace Flowchart

/-- All that is kept between two calls. -/
structure Engine where
  /-- The flows and their versions. -/
  flows : Workflow.Store := {}
  /-- The sessions. -/
  sessions : Session.Store := {}
  /-- The log. -/
  audit : Audit.Log := {}
  /-- Where new identifiers come from. -/
  ids : IdSource
  /-- The outside that steps send requests to. -/
  network : Web.Network := {}
  /-- The executors of steps. -/
  registry : Step.Registry := .builtIn
  /-- The settings. -/
  settings : Settings := {}

namespace Engine

/-- Records an entry in the log. -/
def log (e : Engine) (entry : Audit.Entry) : Engine :=
  { e with audit := e.audit.record entry }

end Engine

end Flowchart
