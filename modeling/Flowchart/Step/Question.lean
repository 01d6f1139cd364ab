import Flowchart.Pattern
import Flowchart.Step.Executor
import Flowchart.Template

/-!
# Questions

A question node waits for an answer, checks it against its rules in a fixed order, and stores it as
a text. An answer that breaks a rule is refused with the message of the first rule it breaks.
-/

namespace Flowchart

namespace Step

namespace Question

/-- The text of a question that has none. -/
def defaultPrompt : String :=
  "Please provide input:"

/-- The variable that takes the answer, if none is named. -/
def defaultKey : String :=
  "userResponse"

/-- The number in decimal. -/
def decimal (n : Nat) : String :=
  String.ofList (Decimal.digits n)

/-- A required answer must not be blank. -/
def requiredRule (rules : NodeConfig) (answer : String) : Except Error (Option String) := do
  let required ← configured (rules.bool? "required")
  return if required.getD false && Text.allBlank answer then some "This field is required."
    else none

/-- An answer has at least so many characters. -/
def leastRule (rules : NodeConfig) (answer : String) : Except Error (Option String) := do
  match ← configured (rules.natural? "minLength") with
  | some n =>
    return if answer.length < n then some ("Input must be at least " ++ decimal n ++ " characters.")
      else none
  | none => return none

/-- An answer has at most so many characters. -/
def greatestRule (rules : NodeConfig) (answer : String) : Except Error (Option String) := do
  match ← configured (rules.natural? "maxLength") with
  | some n =>
    return if n < answer.length then some ("Input must not exceed " ++ decimal n ++ " characters.")
      else none
  | none => return none

/-- Some part of an answer matches the pattern. -/
def patternRule (rules : NodeConfig) (answer : String) : Except Error (Option String) := do
  match ← configured (rules.text? "pattern") with
  | some p =>
    match Pattern.ofText? p with
    | none => throw .pattern
    | some pattern =>
      if pattern.matchesIn answer then return none
      else
        let own ← configured (rules.text? "patternMessage")
        return some (own.getD "Input does not match the required format.")
  | none => return none

/-- The rules in the order in which they are applied. -/
def rules : List (NodeConfig → String → Except Error (Option String)) :=
  [requiredRule, leastRule, greatestRule, patternRule]

/-- The message of the first of some rules that an answer breaks. -/
def firstBroken? (config : NodeConfig) (answer : String) :
    List (NodeConfig → String → Except Error (Option String)) → Except Error (Option String)
  | [] => .ok none
  | rule :: rules =>
    match rule config answer with
    | .ok none => firstBroken? config answer rules
    | found => found

/-- The message of the first rule that an answer breaks. -/
def violation? (config : NodeConfig) (answer : String) : Except Error (Option String) :=
  firstBroken? config answer rules

/-- The result of an answer that was taken. -/
def taken (prompt key answer : String) : Result :=
  { Result.done (.ofEntries [
      ("question", .string prompt), ("answer", .string answer), ("stateKey", .string key)]) with
    updates := .ofEntries [(key, .string answer)] }

/-- Asks, or takes the answer that is there. A null is no answer. -/
def run (input : Input) : Except Error Result := do
  let text ← configured (input.config.textOr "promptText" defaultPrompt)
  let prompt := Template.render text input.state
  let key ← configured (input.config.textOr "stateKey" defaultKey)
  let rules ← configured (input.config.section? "validationRules")
  match input.answer with
  | none | some .null => return .asking prompt
  | some value =>
    let answer := value.display
    match ← violation? rules answer with
    | some reason => return .refused prompt reason
    | none => return taken prompt key answer

end Question

/-- Executes question nodes. -/
def question : Executor :=
  .silent "Question" Question.run

end Step

end Flowchart
