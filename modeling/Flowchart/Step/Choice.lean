import Flowchart.Step.Branch
import Flowchart.Step.Executor

/-!
# Choices

A condition node takes the first of its branches whose condition holds, else the first one that is
marked as the default. A condition without a truth value fails the step when it is reached.
-/

namespace Flowchart

namespace Step

namespace Choice

/-- Why no branch is taken. -/
def noMatch : String :=
  "No condition matched and no default branch defined."

/-- The first branch whose condition holds. -/
def firstHolding? (state : StateMap) : List Branch → Except Condition.Error (Option Branch)
  | [] => .ok none
  | b :: branches =>
    match Condition.evaluate b.condition state with
    | .error e => .error e
    | .ok true => .ok (some b)
    | .ok false => firstHolding? state branches

/-- The flow goes on by a branch. -/
def leave (b : Branch) (output : StateMap) : Result :=
  { Result.done output with nextPort := some b.port, nextNode := b.target }

/-- A branch is taken because its condition holds. -/
def held (b : Branch) : Result :=
  leave b (.ofEntries [
    ("evaluatedCondition", .string b.condition),
    ("selectedBranch", .string (b.label.getD b.port)),
    ("result", .bool true)])

/-- A branch is taken because none holds. -/
def fallen (b : Branch) : Result :=
  leave b (.ofEntries [("selectedBranch", .string "default"), ("result", .bool false)])

/-- The result of choosing between branches. -/
def choose (state : StateMap) (branches : List Branch) : Except Condition.Error Result :=
  (firstHolding? state branches).map fun
    | some b => held b
    | none =>
      match branches.find? (·.isDefault) with
      | some b => fallen b
      | none => .failed noMatch

/-- Chooses between the branches of the node. -/
def run (input : Input) : Except Error Result := do
  let branches ← configured (Branch.ofConfig? input.config)
  (choose input.state branches).mapError .condition

end Choice

/-- Executes condition nodes. -/
def choice : Executor :=
  .silent "Condition" Choice.run

end Step

end Flowchart
