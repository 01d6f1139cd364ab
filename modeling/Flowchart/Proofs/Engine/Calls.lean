import Flowchart.Engine.Execution
import Flowchart.Proofs.Session.Turn

/-!
# Calls, one after another

A call is a request with the present in which it comes. It runs a
session, one that it opens or one that is stored (`Runs`), or else leaves
the engine as it is (`execute_cases`); whatever it does, the flows, the
executors and the settings stay (`Kept`). A store whose gate is open
takes every session that is run (`find?_serve`).
-/

namespace Flowchart

/-- No write is refused. -/
def Session.Store.Open (st : Session.Store) : Prop :=
  ∀ k, st.gate.refusal k = none

namespace Engine

/-- A request and the present in which it comes. -/
structure Call where
  /-- The request. -/
  request : Request
  /-- The present. -/
  clock : Clock
deriving Inhabited

/-- The call names a session and its flow. -/
def Call.Names (c : Call) (id : String) (workflowId : Uuid) : Prop :=
  c.request.sessionId = some id ∧ c.request.workflowId = workflowId

instance (c : Call) (id : String) (workflowId : Uuid) : Decidable (c.Names id workflowId) :=
  inferInstanceAs (Decidable (_ ∧ _))

/-- The engine after some calls. -/
def after (e : Engine) (calls : List Call) : Engine :=
  calls.foldl (fun e c => (e.execute c.request c.clock).2) e

/-- Where a request starts a session: the graph of its flow and the node
at which that starts. -/
def opening? (e : Engine) (r : Request) : Option (Graph × Graph.Node) :=
  match r.sessionId with
  | some _ => none
  | none => (e.flows.find? r.workflowId).bind fun w =>
    w.graph.start?.map fun node => (w.graph, node)

/-- The session that a call opens, before its first step. -/
def opened (e : Engine) (id : String) (node : Graph.Node) (c : Call) : Session :=
  Session.start id c.request.workflowId (c.request.userId.getD e.settings.defaultUser) node.id
    (c.request.initialState.getD .empty) c.clock.now

/-- The run of a session that is given the answer of a call. -/
def runOf (e : Engine) (g : Graph) (s : Session) (c : Call) (n : Web.Network) : Session.Run :=
  { s with input := c.request.input }.run
    { graph := g, registry := e.registry, clock := c.clock } e.settings.maxSteps n

/-- The engine runs a session with the answer of a call. -/
def serve (e : Engine) (g : Graph) (s : Session) (c : Call) : Response × Engine :=
  e.runSession g { s with input := c.request.input } c.clock

/-- The engine has drawn an identifier. -/
def draw (e : Engine) : Engine :=
  { e with ids := e.ids.skip 1 }

variable {e e' e'' : Engine} {c : Call} {calls : List Call} {g : Graph} {s : Session}

@[simp] theorem opened_id (e : Engine) (id : String) (node : Graph.Node) (c : Call) :
    (e.opened id node c).id = id := rfl

@[simp] theorem opened_status (e : Engine) (id : String) (node : Graph.Node) (c : Call) :
    (e.opened id node c).status = .running := rfl

@[simp] theorem after_nil : e.after [] = e := rfl

theorem after_append (xs ys : List Call) : e.after (xs ++ ys) = (e.after xs).after ys :=
  List.foldl_append

theorem after_concat (xs : List Call) (c : Call) :
    e.after (xs ++ [c]) = ((e.after xs).execute c.request c.clock).2 :=
  after_append xs [c]

/-! ## What calls leave alone -/

/-- The flows, the executors, the settings and the identifiers to draw
are the same. -/
structure Kept (e e' : Engine) : Prop where
  /-- The flows stay. -/
  flows : e'.flows = e.flows
  /-- The executors stay. -/
  registry : e'.registry = e.registry
  /-- The settings stay. -/
  settings : e'.settings = e.settings
  /-- The identifiers come in the same order. -/
  stream : e'.ids.stream = e.ids.stream

theorem Kept.refl (e : Engine) : Kept e e :=
  ⟨rfl, rfl, rfl, rfl⟩

theorem Kept.trans (h : Kept e e') (h' : Kept e' e'') : Kept e e'' :=
  ⟨h'.flows.trans h.flows, h'.registry.trans h.registry, h'.settings.trans h.settings,
    h'.stream.trans h.stream⟩

theorem Kept.opening? (h : Kept e e') (r : Request) : e'.opening? r = e.opening? r := by
  rw [Engine.opening?, Engine.opening?, h.flows]

theorem Kept.opened (h : Kept e e') (id : String) (node : Graph.Node) (c : Call) :
    e'.opened id node c = e.opened id node c := by
  rw [Engine.opened, Engine.opened, h.settings]

theorem Kept.runOf (h : Kept e e') (g : Graph) (s : Session) (c : Call) (n : Web.Network) :
    e'.runOf g s c n = e.runOf g s c n := by
  rw [Engine.runOf, Engine.runOf, h.registry, h.settings]

theorem kept_draw (e : Engine) : Kept e e.draw :=
  ⟨rfl, rfl, rfl, rfl⟩

theorem kept_serve (e : Engine) (g : Graph) (s : Session) (c : Call) :
    Kept e (e.serve g s c).2 :=
  ⟨rfl, rfl, rfl, rfl⟩

/-- The store takes a session that was run. -/
theorem sessions_serve (hopen : e.sessions.Open) (g : Graph) (s : Session) (c : Call) :
    (e.serve g s c).2.sessions =
      { sessions := e.sessions.sessions.insert s.id (e.runOf g s c e.network).session
        gate := { e.sessions.gate with tried := e.sessions.gate.tried + 1 } } := by
  have hid : (e.runOf g s c e.network).session.id = s.id := (Session.continues_run _ _ _ _).id
  change (e.sessions.put (e.runOf g s c e.network).session).2 = _
  rw [Session.Store.put_of_pass (hopen _), hid]

theorem open_serve (hopen : e.sessions.Open) (g : Graph) (s : Session) (c : Call) :
    (e.serve g s c).2.sessions.Open := by
  rw [sessions_serve hopen]
  exact hopen

/-- **A session that is run is stored under its identifier**, and no
other one is touched. -/
theorem find?_serve (hopen : e.sessions.Open) (g : Graph) (s : Session) (c : Call) (id : String) :
    (e.serve g s c).2.sessions.find? id =
      if s.id = id then some (e.runOf g s c e.network).session else e.sessions.find? id := by
  rw [sessions_serve hopen]
  exact SortedMap.find?_insert ..

/-! ## What a call does -/

/-- The call reaches no session: it opens none, and none that is stored
is its own and still open. -/
def Idle (e : Engine) (c : Call) : Prop :=
  e.opening? c.request = none ∧
    ∀ id s, c.Names id s.workflowId → e.sessions.find? id = some s → s.status = .completed

theorem sessionOf_eq_ok {id : String} {w : Uuid} (h : e.sessionOf id w = .ok s) :
    e.sessions.find? id = some s ∧ s.workflowId = w := by
  unfold sessionOf at h
  split at h
  · next t ht =>
    obtain rfl := Except.ok.inj h
    obtain ⟨hf, hw⟩ := Option.filter_eq_some_iff.1 ht
    exact ⟨hf, by simpa using hw⟩
  · cases h

theorem sessionOf_of_names {id : String} (hid : c.Names id s.workflowId)
    (hs : e.sessions.find? id = some s) : e.sessionOf id c.request.workflowId = .ok s := by
  rw [sessionOf, hs, Option.filter_some, if_pos (by simp [hid.2])]

/-- **A call opens a session.** -/
theorem execute_of_opening {node : Graph.Node} (h : e.opening? c.request = some (g, node)) :
    e.execute c.request c.clock =
      e.draw.serve g (e.opened e.ids.next.toText node c) c := by
  unfold opening? at h
  split at h
  · cases h
  · next hid =>
    obtain ⟨w, hw, hst⟩ := Option.bind_eq_some_iff.1 h
    obtain ⟨m, hm, hp⟩ := Option.map_eq_some_iff.1 hst
    obtain ⟨rfl, rfl⟩ := Prod.mk.inj hp
    simp only [execute, hid, startSession, graphOf, hw, hm, serve, draw, opened]

/-- A call that names no session and opens none is turned away. -/
theorem rejected_of_no_opening (hid : c.request.sessionId = none)
    (hopen : e.opening? c.request = none) :
    ∃ reason, e.execute c.request c.clock = (.rejected none reason, e) := by
  simp only [opening?, hid, Option.bind_eq_none_iff] at hopen
  simp only [execute, hid, startSession, graphOf]
  cases hw : e.flows.find? c.request.workflowId with
  | none => exact ⟨_, rfl⟩
  | some w =>
    have hst : w.graph.start? = none := by simpa using hopen w hw
    simp only [hst]
    exact ⟨_, rfl⟩

/-- **A call goes on with a stored session.** -/
theorem execute_of_open_session {id : String} {w : Workflow} (hid : c.Names id s.workflowId)
    (hs : e.sessions.find? id = some s) (hc : s.status ≠ .completed)
    (hw : e.flows.find? s.workflowId = some w) :
    e.execute c.request c.clock = e.serve w.graph s c := by
  have hof : e.sessionOf id c.request.workflowId = .ok s := sessionOf_of_names hid hs
  simp only [execute, hid.1, resumeSession, hof, if_neg hc, graphOf, hw, serve]

/-- **A completed session is shown as it is.** -/
theorem execute_of_completed {id : String} (hid : c.Names id s.workflowId)
    (hs : e.sessions.find? id = some s) (hc : s.status = .completed) :
    e.execute c.request c.clock =
      (.ofSession s (some Session.completedMessage) none, e) := by
  have hof : e.sessionOf id c.request.workflowId = .ok s := sessionOf_of_names hid hs
  simp only [execute, hid.1, resumeSession, hof, if_pos hc]

/-- **A call runs a session** in a graph: the engine in front of the run
has drawn the identifier of a session that is opened. -/
inductive Runs (e : Engine) (c : Call) : Engine → Graph → Session → Prop where
  /-- The call opens the session. -/
  | opens {g : Graph} {node : Graph.Node} (h : e.opening? c.request = some (g, node)) :
    Runs e c e.draw g (e.opened e.ids.next.toText node c)
  /-- The session is stored, and the call names it. -/
  | resumes {id : String} {s : Session} {w : Workflow} (hid : c.Names id s.workflowId)
    (hs : e.sessions.find? id = some s) (hc : s.status ≠ .completed)
    (hw : e.flows.find? s.workflowId = some w) : Runs e c e w.graph s

theorem execute_of_runs {e₀ : Engine} (h : e.Runs c e₀ g s) :
    e.execute c.request c.clock = e₀.serve g s c := by
  cases h with
  | opens h => exact execute_of_opening h
  | resumes hid hs hc hw => exact execute_of_open_session hid hs hc hw

/-- A session whose flow is gone is shown as it is. -/
theorem execute_of_lost_flow {id : String} (hid : c.Names id s.workflowId)
    (hs : e.sessions.find? id = some s) (hc : s.status ≠ .completed)
    (hw : e.flows.find? s.workflowId = none) :
    e.execute c.request c.clock =
      (.ofSession s none (some (Rejection.workflowNotFound s.workflowId).message), e) := by
  have hof : e.sessionOf id c.request.workflowId = .ok s := sessionOf_of_names hid hs
  simp only [execute, hid.1, resumeSession, hof, if_neg hc, graphOf, hw]

/-- **What a call does**: it runs a session, or shows the stored one that
it names, or names none and is turned away; only the first changes the
engine. -/
theorem execute_cases (e : Engine) (c : Call) :
    (∃ e₀ g s, e.Runs c e₀ g s) ∨
    (∃ id s message error, c.Names id s.workflowId ∧ e.sessions.find? id = some s ∧
      e.execute c.request c.clock = (.ofSession s message error, e)) ∨
    ((∀ id s, c.Names id s.workflowId → e.sessions.find? id ≠ some s) ∧
      ∃ id reason, e.execute c.request c.clock = (.rejected id reason, e)) := by
  cases hid : c.request.sessionId with
  | none =>
    cases hopen : e.opening? c.request with
    | some p => exact .inl ⟨_, p.1, _, .opens hopen⟩
    | none =>
      refine .inr (.inr ⟨fun id s hn => ?_, none, rejected_of_no_opening hid hopen⟩)
      exact absurd (hid.symm.trans hn.1) nofun
  | some id =>
    cases hof : e.sessionOf id c.request.workflowId with
    | error reason =>
      refine .inr (.inr ⟨fun id' s hn hs => ?_, some id, reason.message, ?_⟩)
      · obtain rfl : id = id' := Option.some.inj (hid.symm.trans hn.1)
        exact nomatch hof.symm.trans (sessionOf_of_names hn hs)
      · simp only [execute, hid, resumeSession, hof]
    | ok s =>
      obtain ⟨hs, hw⟩ := sessionOf_eq_ok hof
      have hn : c.Names id s.workflowId := ⟨hid, hw.symm⟩
      by_cases hc : s.status = .completed
      · exact .inr (.inl ⟨id, s, _, _, hn, hs, execute_of_completed hn hs hc⟩)
      · cases hflow : e.flows.find? s.workflowId with
        | some w => exact .inl ⟨e, w.graph, s, .resumes hn hs hc hflow⟩
        | none => exact .inr (.inl ⟨id, s, _, _, hn, hs, execute_of_lost_flow hn hs hc hflow⟩)

/-- **An idle call leaves the engine as it is.** -/
theorem execute_of_idle (h : e.Idle c) : (e.execute c.request c.clock).2 = e := by
  obtain ⟨e₀, g, s, hruns⟩ | ⟨id, s, message, error, -, -, hshown⟩ | ⟨-, id, reason, hrejected⟩ :=
    execute_cases e c
  · cases hruns with
    | opens hopen => cases h.1.symm.trans hopen
    | resumes hid hs hc hw => exact absurd (h.2 _ _ hid hs) hc
  · rw [hshown]
  · rw [hrejected]

end Engine

end Flowchart
