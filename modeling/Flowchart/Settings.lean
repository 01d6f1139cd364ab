import Flowchart.Json.Fields
import Flowchart.Text.Blank

/-!
# Settings

The limits of an engine and the user it names when no one else does. Defaults are replaced by what a
file says, and that by what the environment says.
-/

namespace Flowchart

/-- The settings of an engine. -/
structure Settings where
  /-- How many steps a run may take. -/
  maxSteps : Nat := 100
  /-- How many seconds a request may take. -/
  timeout : Nat := 30
  /-- The user of a request that names none. -/
  defaultUser : String := "anonymous"
deriving DecidableEq, Inhabited

namespace Settings

/-- Why settings are refused. -/
inductive Problem where
  /-- The text of a number is none. -/
  | notANumber (text : String)
  /-- A run has to take at least one step. -/
  | noSteps
  /-- A file cannot be read. -/
  | noFile (reason : String)
  /-- A file holds no settings. -/
  | unreadable (mismatch : Json.Mismatch)
deriving DecidableEq

/-- Settings that are refused. -/
structure Error where
  /-- The setting or the file it is about. -/
  key : String
  /-- What is wrong with it. -/
  problem : Problem
deriving DecidableEq

/-- The wording of what is wrong. -/
def Problem.message : Problem → String
  | notANumber text => "cannot parse '" ++ text ++ "'"
  | noSteps => "must be at least 1"
  | noFile reason => reason
  | unreadable mismatch => mismatch.message

/-- The wording of the refusal. -/
def Error.message (e : Error) : String :=
  "config key '" ++ e.key ++ "' is invalid: " ++ e.problem.message

/-- The variable for the number of steps. -/
def stepsVariable : String := "FLOWWEAVE_MAX_STEPS"

/-- The variable for the time of requests. -/
def timeoutVariable : String := "FLOWWEAVE_HTTP_TIMEOUT_SECS"

/-- The variable for the user. -/
def userVariable : String := "FLOWWEAVE_DEFAULT_USER"

/-- The settings as a document. -/
def toJson (s : Settings) : Json :=
  .object [
    ("maxSteps", .ofNat s.maxSteps),
    ("httpTimeoutSecs", .ofNat s.timeout),
    ("defaultUserId", .string s.defaultUser)]

/-- Reads settings. -/
def decoder : Json.Decoder Settings :=
  .record "EngineConfig" [
    .of "maxSteps" .natural fun s v => { s with maxSteps := v },
    .of "httpTimeoutSecs" .natural fun s v => { s with timeout := v },
    .of "defaultUserId" .text fun s v => { s with defaultUser := v }] {}

/-- The settings, if a run may take a step. -/
def checked (s : Settings) : Except Error Settings :=
  if s.maxSteps = 0 then .error { key := "maxSteps", problem := .noSteps } else .ok s

/-- Reads the settings that a file at a path holds, or says why there is none. -/
def load (path : String) (contents : Except String String) : Except Error Settings :=
  match contents with
  | .error reason => .error { key := path, problem := .noFile reason }
  | .ok text =>
    match decoder.ofString text with
    | .error m => .error { key := path, problem := .unreadable m }
    | .ok s => s.checked

/-- A number of at most 64 bits; a plus sign may stand before it. -/
def number? (text : String) : Option Nat :=
  let digits := match text.toList with
    | '+' :: rest => rest
    | rest => rest
  (Decimal.natural? digits).filter (· < Decimal.wordLimit)

/-- The number that a variable holds, white space around it aside. -/
def ofVariable (key raw : String) : Except Error Nat :=
  match number? (Text.trim raw) with
  | some n => .ok n
  | none => .error { key, problem := .notANumber raw }

/-- The settings with what the environment says. A blank user is ignored. -/
def withOverrides (s : Settings) (lookup : String → Option String) : Except Error Settings := do
  let maxSteps ← match lookup stepsVariable with
    | some raw => ofVariable stepsVariable raw
    | none => pure s.maxSteps
  let timeout ← match lookup timeoutVariable with
    | some raw => ofVariable timeoutVariable raw
    | none => pure s.timeout
  let user := (lookup userVariable).map Text.trim
  let defaultUser := (user.filter (· ≠ "")).getD s.defaultUser
  checked { maxSteps, timeout, defaultUser }

end Settings

end Flowchart
