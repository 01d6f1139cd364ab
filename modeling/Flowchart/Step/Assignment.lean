import Flowchart.Step.Executor
import Flowchart.Template

/-!
# Assignments

A state update node writes several variables at once. A text that refers to one variable as a whole
takes its value with its type, and every other text is filled in.
-/

namespace Flowchart

namespace Step

namespace Assignment

/-- The value that is written for a configured one. -/
def resolve (state : StateMap) : Json → Json
  | .string s => (Template.referenced? s state).getD (.string (Template.render s state))
  | value => value

/-- The changes that configured entries make in a state. -/
def updates (state : StateMap) (entries : Json.Entries) : StateMap :=
  .ofEntries (entries.map fun e => (e.1, resolve state e.2))

/-- Writes the configured variables. -/
def run (input : Input) : Except Error Result := do
  let entries ← configured (input.config.object? "updates")
  let updates := updates input.state (entries.getD [])
  return { Result.done (.ofEntries [
      ("updatedKeys", .array (updates.keys.map .string)),
      ("updateCount", .ofNat updates.size)]) with
    updates }

end Assignment

/-- Executes state update nodes. -/
def assignment : Executor :=
  .silent "State update" Assignment.run

end Step

end Flowchart
