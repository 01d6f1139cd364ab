import Flowchart.CommandLine.Conversation
import Flowchart.Engine.Lifecycle

/-!
# Opening a run

A run opens in a fixed order, and the first thing that goes wrong stops it: the settings, the source
of the graph, the session to go on with, the graph itself, its validation, and the entries of the
state. Then the flow is kept in a new engine, and a new session is started or the old one put back.
-/

namespace Flowchart

namespace CommandLine

/-- What a run finds around it when it opens. -/
structure Surroundings where
  /-- Reads a file. -/
  read : String → Except Files.Fault String
  /-- Looks up a variable of the environment. -/
  lookup : String → Option String := fun _ => none
  /-- Where new identifiers come from. -/
  ids : IdSource
  /-- The outside that steps send requests to. -/
  network : Web.Network := {}

/-- The settings of a run: those of the file, then the option, then the environment. -/
def settingsOf (o : Options) (s : Surroundings) : Except Settings.Error Settings := do
  let base ← match o.config with
    | some path => Settings.load path ((s.read path).mapError (·.message))
    | none => .ok {}
  ({ base with maxSteps := o.maxSteps.getD base.maxSteps } : Settings).withOverrides s.lookup

/-- The session to go on with. -/
def resumedOf (o : Options) (s : Surroundings) : Except Refusal (Option Session) :=
  match o.resume with
  | none => .ok none
  | some path =>
    match s.read path with
    | .error .isFolder | .error .notText => .error (.notASession path .unreadable)
    | .error fault => .error (.noSession path fault)
    | .ok text =>
      match Session.ofSaved? text with
      | .ok session => .ok (some session)
      | .error mismatch => .error (.notASession path mismatch)

/-- A variable from an entry of the state: what follows the first equals sign is read as a document,
or is a text if it is none. -/
def entry? (entry : String) : Option (String × Json) :=
  (Text.cutAt? '=' entry.toList).map fun (key, raw) =>
    let raw := String.ofList raw
    (Text.trim (String.ofList key), (Json.ofText? raw).getD (.string raw))

/-- The state with the variables of all entries. -/
def stateOn (state : StateMap) : List String → Except Refusal StateMap
  | [] => .ok state
  | entry :: entries =>
    match entry? entry with
    | some (key, value) => stateOn (state.insert key value) entries
    | none => .error (.noKey entry)

/-- The name of the flow that a file holds: the last name of its path without the extension. -/
def nameOf (path : String) : String :=
  match (Files.namesOf path).getLast? with
  | none | some ".." => ""
  | some file =>
    match Text.cutAt? '.' file.toList.reverse with
    | none | some (_, []) => file
    | some (_, stem) => String.ofList stem.reverse

/-! ## The order of things -/

/-- What has been read when validation begins. -/
structure Plan where
  /-- The settings. -/
  settings : Settings
  /-- The source of the graph. -/
  source : String
  /-- The session to go on with. -/
  resumed : Option Session
  /-- The flow. -/
  workflowId : Uuid
  /-- The graph. -/
  graph : Graph
  /-- Where further identifiers come from. -/
  ids : IdSource

/-- Reads what a run needs. -/
def Plan.read (o : Options) (path : String) (s : Surroundings) : Except Refusal Plan := do
  let settings ← (settingsOf o s).mapError .settings
  let source ← (s.read path).mapError (.noGraph path)
  let resumed ← resumedOf o s
  let workflowId := (resumed.map (·.workflowId)).getD s.ids.next
  let ids := s.ids.skip 1
  let graph ← (Graph.ofText? ids.ahead workflowId source).mapError .source
  return { settings, source, resumed, workflowId, graph, ids := ids.skip graph.edges.length }

namespace Plan

/-- A new engine that keeps the flow. -/
def engine (p : Plan) (name : String) (network : Web.Network) (clock : Clock) :
    Except Refusal Engine :=
  let e : Engine := { ids := p.ids, network, settings := p.settings, audit := { keeps := false } }
  match e.create { id := some p.workflowId, name, source := p.source } p.settings.defaultUser clock
    with
  | (.ok _, e) => .ok e
  | (.error err, _) => .error (.unkept err.message)

/-- The first turn of a session: a new one is started, an old one shows what it waits for. -/
def firstTurn (p : Plan) (e : Engine) (state : StateMap) (clock : Clock) : Turn :=
  match p.resumed with
  | none => .ofRequest e 0 { workflowId := p.workflowId, initialState := some state } clock
  | some s =>
    let shown := (s.prompt.map Line.prompt).toList
    match e.sessions.put s with
    | (.ok (), sessions) =>
      { lines := shown
        engine := { e with sessions }
        standing := .waits {
          workflowId := p.workflowId, sessionId := s.id, seen := s.history.length
          moved := false } }
    | (.error err, _) => (Turn.refused e (.unrestored err)).after shown

/-- An engine that keeps nothing yet. -/
def emptyEngine (p : Plan) : Engine :=
  { ids := p.ids }

/-- The turn that follows validation. -/
def proceed (p : Plan) (o : Options) (path : String) (network : Web.Network) (isValid : Bool)
    (clock : Clock) : Turn :=
  if o.validateOnly then
    { lines := if isValid then [.valid] else []
      engine := p.emptyEngine
      standing := .ended isValid }
  else if isValid || o.noValidate then
    match stateOn .empty o.state, p.engine (nameOf path) network clock with
    | .error r, _ => .refused p.emptyEngine r
    | .ok _, .error r => .refused p.emptyEngine r
    | .ok state, .ok e => p.firstTurn e state clock
  else .refused p.emptyEngine .invalidGraph

end Plan

/-- What validation found, errors first. -/
def findings (v : Graph.Validation) : List Line :=
  v.errors.map Line.error ++ v.warnings.map Line.warning

/-- The first turn of a run of the graph at a path. -/
def opening (o : Options) (path : String) (s : Surroundings) (clock : Clock) : Turn :=
  match Plan.read o path s with
  | .error r => .refused { ids := s.ids } r
  | .ok p =>
    let v := p.graph.validate
    (p.proceed o path s.network v.isValid clock).after (findings v)

end CommandLine

end Flowchart
