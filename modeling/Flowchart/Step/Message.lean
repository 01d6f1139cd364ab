import Flowchart.Step.Executor
import Flowchart.Template

/-!
# Messages

A message node fills the state into its text and shows it.
-/

namespace Flowchart

namespace Step

/-- The result of showing a text. -/
def shown (text stamp : String) : Result :=
  { Result.done (.ofEntries [("message", .string text), ("timestamp", .string stamp)]) with
    message := some text }

/-- Shows the text of the node, filled in. -/
def runMessage (input : Input) : Except Error Result := do
  let text ← configured (input.config.text? "messageText")
  return shown (Template.render (text.getD "") input.state) input.stamp

/-- Executes message nodes. -/
def message : Executor :=
  .silent "Message" runMessage

end Step

end Flowchart
