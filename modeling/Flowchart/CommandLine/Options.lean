import Flowchart.Settings

/-!
# Options

What the arguments of a command line ask for. Options are read from left to right; the first misuse
counts, and a call for help counts unless a misuse stands before it. An option takes its value from
the next argument or, after an equals sign, from its own; after two hyphens every argument is a path.
-/

namespace Flowchart

namespace CommandLine

/-- An option that takes a value. -/
inductive Setting where
  /-- An entry of the state of a new session. -/
  | state
  /-- How many steps a run may take. -/
  | maxSteps
  /-- An answer. -/
  | input
  /-- Where to save a session that waits for an answer. -/
  | sessionFile
  /-- The file of the session to go on with. -/
  | resume
  /-- The file with the settings. -/
  | config
deriving DecidableEq, Inhabited

/-- An option without a value. -/
inductive Flag where
  /-- The graph is validated and not run. -/
  | validateOnly
  /-- The graph is run whatever validation finds. -/
  | noValidate
deriving DecidableEq, Inhabited

/-- The settings with their names. -/
def Setting.all : List (String × Setting) := [
  ("state", state), ("max-steps", maxSteps), ("input", input), ("session-file", sessionFile),
  ("resume", resume), ("config", config)]

/-- The flags with their names. -/
def Flag.all : List (String × Flag) := [
  ("validate-only", validateOnly), ("no-validate", noValidate)]

/-- Why arguments are not understood. -/
inductive Misuse where
  /-- There is no such option, or a path too many. -/
  | unexpected (argument : String)
  /-- An option lacks its value. -/
  | noValue (name : String)
  /-- An option takes no value and has one. -/
  | needlessValue (name : String)
  /-- An option that may be given once is given again. -/
  | repeated (name : String)
  /-- A value is of the wrong form. -/
  | invalidValue (name value : String)
  /-- Two options exclude each other. -/
  | conflict
  /-- The path of the graph is missing. -/
  | noGraph
deriving DecidableEq, Inhabited

/-- The wording of a misuse. -/
def Misuse.message : Misuse → String
  | unexpected argument => "error: unexpected argument '" ++ argument ++ "' found"
  | noValue name => "error: a value is required for '--" ++ name ++ "' but none was supplied"
  | needlessValue name => "error: no value is taken by '--" ++ name ++ "'"
  | repeated name => "error: the argument '--" ++ name ++ "' cannot be used multiple times"
  | invalidValue name value => "error: invalid value '" ++ value ++ "' for '--" ++ name ++ "'"
  | conflict => "error: the argument '--validate-only' cannot be used with '--no-validate'"
  | noGraph => "error: the following required arguments were not provided: <graph.json>"

/-- What a command line asks for. -/
structure Options where
  /-- The entries of the state, as they were given. -/
  state : List String := []
  /-- How many steps a run may take. -/
  maxSteps : Option Nat := none
  /-- The answers, in order. -/
  inputs : List String := []
  /-- Where to save a session that waits for an answer. -/
  sessionFile : Option String := none
  /-- The file of the session to go on with. -/
  resume : Option String := none
  /-- The file with the settings. -/
  config : Option String := none
  /-- The graph is validated and not run. -/
  validateOnly : Bool := false
  /-- The graph is run whatever validation finds. -/
  noValidate : Bool := false
  /-- The file of the graph. -/
  graph : Option String := none
deriving DecidableEq, Inhabited

namespace Options

/-- A value for an option that may be given once. -/
def once {α : Type} (name : String) (old : Option α) (value : String) (read : String → Option α) :
    Except Misuse (Option α) :=
  match read value, old with
  | none, _ => .error (.invalidValue name value)
  | some _, some _ => .error (.repeated name)
  | some a, none => .ok (some a)

/-- A path is not empty. -/
def path? (value : String) : Option String :=
  if value = "" then none else some value

/-- The options with a value for a setting. -/
def set (o : Options) (name : String) (setting : Setting) (value : String) :
    Except Misuse Options :=
  match setting with
  | .state => .ok { o with state := o.state ++ [value] }
  | .input => .ok { o with inputs := o.inputs ++ [value] }
  | .maxSteps =>
    (once name o.maxSteps value Settings.number?).map fun v => { o with maxSteps := v }
  | .sessionFile =>
    (once name o.sessionFile value path?).map fun v => { o with sessionFile := v }
  | .resume => (once name o.resume value path?).map fun v => { o with resume := v }
  | .config => (once name o.config value path?).map fun v => { o with config := v }

/-- The options with a flag. -/
def raise (o : Options) (name : String) (flag : Flag) : Except Misuse Options :=
  match flag with
  | .validateOnly =>
    if o.validateOnly then .error (.repeated name) else .ok { o with validateOnly := true }
  | .noValidate =>
    if o.noValidate then .error (.repeated name) else .ok { o with noValidate := true }

/-- The options with the path of the graph. -/
def withGraph (o : Options) (value : String) : Except Misuse Options :=
  match o.graph with
  | some _ => .error (.unexpected value)
  | none =>
    match path? value with
    | some path => .ok { o with graph := some path }
    | none => .error (.invalidValue "graph.json" value)

end Options

/-! ## Reading -/

/-- What a command line comes to. -/
inductive Invocation where
  /-- A call for help. -/
  | help
  /-- A run of the graph at a path. -/
  | run (o : Options) (graph : String)
deriving DecidableEq, Inhabited

/-- An argument by its form. -/
inductive Argument where
  /-- From here on there are only paths. -/
  | escape
  /-- A call for help. -/
  | help
  /-- An option by its name, with what follows an equals sign. -/
  | named (name : String) (value : Option String)
  /-- An option that there is not. -/
  | unknown (text : String)
  /-- A path or a value. -/
  | plain (text : String)
deriving DecidableEq, Inhabited

/-- The form of an argument. A lone hyphen is plain. -/
def Argument.ofText (text : String) : Argument :=
  match text.toList with
  | ['-', '-'] => .escape
  | '-' :: '-' :: name =>
    match Text.cutAt? '=' name with
    | some (name, value) => .named (String.ofList name) (some (String.ofList value))
    | none => .named (String.ofList name) none
  | ['-'] => .plain text
  | '-' :: 'h' :: _ => .help
  | '-' :: _ => .unknown text
  | _ => .plain text

/-- The options all together: a graph is needed, and some flags exclude each other. -/
def Options.checked (o : Options) : Except Misuse Invocation :=
  if o.validateOnly && o.noValidate then .error .conflict
  else
    match o.graph with
    | some graph => .ok (.run o graph)
    | none => .error .noGraph

/-- Reads arguments that are all paths. -/
def readPaths (o : Options) : List String → Except Misuse Invocation
  | [] => o.checked
  | argument :: rest =>
    match o.withGraph argument with
    | .ok o => readPaths o rest
    | .error misuse => .error misuse

/-- Reads arguments on top of the options that stand before them. -/
def readOn (o : Options) : List String → Except Misuse Invocation
  | [] => o.checked
  | argument :: rest =>
    match Argument.ofText argument with
    | .escape => readPaths o rest
    | .help => .ok .help
    | .unknown text => .error (.unexpected text)
    | .plain text =>
      match o.withGraph text with
      | .ok o => readOn o rest
      | .error misuse => .error misuse
    | .named name value =>
      match Setting.all.lookup name, Flag.all.lookup name, value with
      | some setting, _, some value =>
        match o.set name setting value with
        | .ok o => readOn o rest
        | .error misuse => .error misuse
      | some setting, _, none =>
        match rest with
        | [] => .error (.noValue name)
        | next :: rest =>
          match Argument.ofText next with
          | .plain value =>
            match o.set name setting value with
            | .ok o => readOn o rest
            | .error misuse => .error misuse
          | _ => .error (.noValue name)
      | none, some _, some _ => .error (.needlessValue name)
      | none, some flag, none =>
        match o.raise name flag with
        | .ok o => readOn o rest
        | .error misuse => .error misuse
      | none, none, value =>
        if name = "help" then (if value.isNone then .ok .help else .error (.needlessValue name))
        else .error (.unexpected argument)

/-- Reads the arguments of a command line. -/
def Invocation.ofArguments (arguments : List String) : Except Misuse Invocation :=
  readOn {} arguments

/-! ## Help -/

/-- What a call for help is answered with. -/
def usage : List String := [
  "Run a workflow graph from a JSON file",
  "",
  "Usage: run_workflow [OPTIONS] <graph.json>",
  "",
  "Arguments:",
  "  <graph.json>  Path to the workflow graph JSON file",
  "",
  "Options:",
  "      --state <KEY=VALUE>    Initial state entry as key=value; values that parse as JSON keep their type",
  "      --max-steps <N>        Maximum node executions per run. Overridden by FLOWWEAVE_MAX_STEPS if set",
  "      --input <TEXT>         Answer for the next question; may be repeated",
  "      --session-file <PATH>  Where to save the session when it is left awaiting input",
  "      --resume <PATH>        Continue a session saved with --session-file",
  "      --config <PATH>        Engine configuration file (JSON)",
  "      --validate-only        Validate the graph and exit",
  "      --no-validate          Run even when validation reports errors",
  "  -h, --help                 Print help",
  "",
  "Environment variables (override flags and --config when set):",
  "  FLOWWEAVE_MAX_STEPS          Maximum node executions per run (default 100).",
  "  FLOWWEAVE_HTTP_TIMEOUT_SECS  Timeout for APICall requests (default 30).",
  "  FLOWWEAVE_DEFAULT_USER       User recorded on the session (default anonymous).",
  "",
  "Examples:",
  "  run_workflow --state name=Ann greeting.json",
  "  run_workflow --input 42 --session-file .flowweave/session.json survey.json",
  "  run_workflow --resume .flowweave/session.json survey.json"]

end CommandLine

end Flowchart
