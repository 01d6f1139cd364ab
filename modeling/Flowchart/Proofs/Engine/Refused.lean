import Flowchart.Proofs.Engine.Events
import Flowchart.Proofs.Engine.Rest

/-!
# Writes that are refused

The store may refuse to take a session that a call has run. The call is
then lost (`Loses`): it is answered and logged as a failure, and the
stored sessions are as before, so whatever comes later finds them as if
the call had not been made. `Shadows` relates an engine to one whose
store refuses nothing and that passes over the lost calls;
`Shadows.passOver` and `Shadows.execute` carry it over one call, and
`Shadows.after` over any calls (`lost_calls_leave_no_trace`).
-/

namespace Flowchart

/-- Every session stands under its own identifier. -/
def Session.Store.Filed (st : Session.Store) : Prop :=
  ∀ id s, st.find? id = some s → s.id = id

namespace Engine

/-- Only calls reach outside, and no flow has any. -/
structure Secluded (e : Engine) : Prop where
  /-- Only the executors of calls reach outside. -/
  silent : ∀ kind x, e.registry.resolve? kind = some x → kind ≠ Step.callKind → x.Silent
  /-- No graph has a call. -/
  callFree : ∀ w ∈ e.flows.flows, w.graph.CallFree

/-- **The call is lost**: it has tried a write, and that is refused. -/
def Loses (e : Engine) (c : Call) : Prop :=
  (e.execute c.request c.clock).2.sessions.gate.tried ≠ e.sessions.gate.tried ∧
    (e.sessions.gate.refusal e.sessions.gate.tried).isSome

instance (e : Engine) (c : Call) : Decidable (e.Loses c) :=
  inferInstanceAs (Decidable (_ ∧ _))

/-- The same engine with a store of sessions that refuses nothing. -/
def unrefusing (e : Engine) : Engine :=
  { e with sessions := { sessions := e.sessions.sessions } }

/-- The engine passes over a call. If the call would have opened a
session, the identifier of that session stays unused. -/
def passOver (e : Engine) (c : Call) : Engine :=
  if (e.opening? c.request).isSome then e.draw else e

/-- Some calls in order, each with whether it is lost. -/
def marked (e : Engine) : List Call → List (Call × Bool)
  | [] => []
  | c :: calls => (c, decide (e.Loses c)) :: (e.execute c.request c.clock).2.marked calls

/-- The engine after those of some calls that are not marked as lost. -/
def afterKept (e : Engine) (calls : List (Call × Bool)) : Engine :=
  calls.foldl (fun e c => if c.2 then e.passOver c.1 else
    (e.execute c.1.request c.1.clock).2) e

variable {e e₀ d : Engine} {c : Call} {g : Graph} {s : Session} {calls : List Call}

/-! ## Calls that are lost -/

/-- A call tries one write, if it runs a session. -/
theorem tried_serve (e : Engine) (g : Graph) (s : Session) (c : Call) :
    (e.serve g s c).2.sessions.gate.tried = e.sessions.gate.tried + 1 := by
  rw [sessions_serve_eq_put]
  cases hgate : e.sessions.gate.refusal e.sessions.gate.tried with
  | none => rw [Session.Store.put_of_pass hgate]
  | some reason => rw [Session.Store.put_of_refusal hgate]

/-- **A call is lost just if it runs a session that the store refuses.** -/
theorem loses_iff : e.Loses c ↔
    (∃ e₀ g s, e.Runs c e₀ g s) ∧
      ∃ reason, e.sessions.gate.refusal e.sessions.gate.tried = some reason := by
  rw [Loses, Option.isSome_iff_exists]
  refine and_congr_left fun _ => ⟨fun htried => ?_, ?_⟩
  · by_contra hruns
    rw [execute_of_not_runs hruns] at htried
    exact htried rfl
  · rintro ⟨e₀, g, s, hruns⟩
    rw [execute_of_runs hruns, tried_serve, hruns.sessions_eq]
    exact Nat.succ_ne_self _

/-- What is refused in front of a run is refused to the call. -/
theorem Runs.refused (h : e.Runs c e₀ g s) (hlost : e.Loses c) :
    ∃ reason, e₀.sessions.gate.refusal e₀.sessions.gate.tried = some reason :=
  h.sessions_eq ▸ (loses_iff.1 hlost).2

/-- What a call that is not lost has run is let through. -/
theorem Runs.passes (h : e.Runs c e₀ g s) (hkept : ¬ e.Loses c) :
    e₀.sessions.gate.refusal e₀.sessions.gate.tried = none := by
  rw [h.sessions_eq]
  by_contra hrefused
  exact hkept (loses_iff.2 ⟨⟨e₀, g, s, h⟩, Option.ne_none_iff_exists'.1 hrefused⟩)

/-- **A lost call** leaves the stored sessions, is answered as a failure
and is logged as one. -/
theorem execute_of_loses (h : e.Loses c) :
    (e.execute c.request c.clock).2.sessions.sessions = e.sessions.sessions ∧
    (e.execute c.request c.clock).1.success = false ∧
    ∃ x, (e.execute c.request c.clock).2.audit = e.audit.record x ∧
      x.action = .executionFailed ∧ x.workflowId = c.request.workflowId ∧
      x.sessionId = some (e.execute c.request c.clock).1.sessionId := by
  obtain ⟨e₀, g, s, hruns⟩ := (loses_iff.1 h).1
  obtain ⟨reason, hrefused⟩ := hruns.refused h
  obtain ⟨hsessions, hfails, -⟩ := serve_of_refusal hrefused g s c
  have hflow : (e₀.runOf g s c e₀.network).session.workflowId = c.request.workflowId :=
    (Session.continues_run { graph := g, registry := e₀.registry, clock := c.clock }
      e₀.settings.maxSteps { s with input := c.request.input } e₀.network).workflowId.trans
        hruns.workflowId_eq
  rw [execute_of_runs hruns, audit_serve, hruns.audit_eq, hfails, (shows_serve e₀ g s c).sessionId]
  exact ⟨hsessions.trans (congrArg _ hruns.sessions_eq), rfl, _, rfl, rfl, hflow, rfl⟩

/-! ## Answers that show what is stored -/

/-- **Sessions stay under their own identifiers.** -/
theorem filed_execute (h : e.sessions.Filed) (c : Call) :
    (e.execute c.request c.clock).2.sessions.Filed :=
  stored_execute (P := fun id s => s.id = id) h fun _ _ _ _ => rfl

theorem filed_after (h : e.sessions.Filed) (calls : List Call) :
    (e.after calls).sessions.Filed := by
  induction calls using List.reverseRecOn with
  | nil => exact h
  | append_singleton calls c ih =>
    rw [after_concat]
    exact filed_execute ih c

/-- **What is answered as a success is stored**: the session under the
identifier of the response is the one that the response shows. -/
theorem stored_of_success (h : e.sessions.Filed)
    (hsuccess : (e.execute c.request c.clock).1.success = true) :
    ∃ s, (e.execute c.request c.clock).2.sessions.find?
        (e.execute c.request c.clock).1.sessionId = some s ∧
      (e.execute c.request c.clock).1.Shows s := by
  obtain ⟨e₀, g, s, hruns⟩ | ⟨id, s, message, error, -, hs, hshown⟩ | ⟨-, id, reason, hrejected⟩ :=
    execute_cases e c
  · have hkept : ¬ e.Loses c := fun hlost =>
      Bool.false_ne_true ((execute_of_loses hlost).2.1.symm.trans hsuccess)
    have hshows := shows_serve e₀ g s c
    rw [execute_of_runs hruns]
    refine ⟨_, ?_, hshows⟩
    exact (find?_serve_of_pass (hruns.passes hkept) g s c _).trans (if_pos hshows.sessionId.symm)
  · rw [hshown]
    refine ⟨s, ?_, Response.shows_ofSession s message error⟩
    exact (congrArg e.sessions.find? (h id s hs)).trans hs
  · rw [hrejected] at hsuccess
    cases hsuccess

/-! ## The engine without the lost calls -/

/-- One engine is like another one, but for what its store refuses, which
is nothing, and for what is logged. -/
structure Shadows (e d : Engine) : Prop where
  /-- Flows, executors and settings are the same. -/
  kept : Kept e d
  /-- As many identifiers have been drawn. -/
  drawn : d.ids.drawn = e.ids.drawn
  /-- The outside is the same. -/
  network : d.network = e.network
  /-- The stored sessions are the same. -/
  sessions : d.sessions.sessions = e.sessions.sessions
  /-- The store refuses nothing. -/
  gate : d.sessions.Open

theorem shadows_unrefusing (e : Engine) : Shadows e e.unrefusing :=
  ⟨⟨rfl, rfl, rfl, rfl⟩, rfl, rfl, rfl, fun _ => rfl⟩

theorem Shadows.ids (h : Shadows e d) : d.ids = e.ids := by
  have hstream := h.kept.stream
  have hdrawn := h.drawn
  generalize d.ids = ids at hstream hdrawn
  generalize e.ids = ids' at hstream hdrawn
  obtain ⟨stream, drawn⟩ := ids
  obtain rfl := hstream
  obtain rfl := hdrawn
  rfl

theorem Shadows.draw (h : Shadows e d) : Shadows e.draw d.draw :=
  ⟨⟨h.kept.flows, h.kept.registry, h.kept.settings, h.kept.stream⟩,
    congrArg (· + 1) h.drawn, h.network, h.sessions, h.gate⟩

theorem Secluded.execute (h : e.Secluded) (c : Call) :
    (e.execute c.request c.clock).2.Secluded := by
  obtain ⟨hflows, hregistry, -, -⟩ := kept_execute e c
  exact ⟨hregistry ▸ h.silent, hflows ▸ h.callFree⟩

/-- **A secluded engine runs its sessions without the outside.** -/
theorem Secluded.network_runOf (hsecluded : e.Secluded) (h : e.Runs c e₀ g s) :
    (e₀.runOf g s c e₀.network).network = e₀.network := by
  obtain ⟨w, hw, hgraph⟩ := Option.map_eq_some_iff.1 h.graph_eq
  have hfree : g.CallFree := hgraph ▸ callFree_of_find? hsecluded.callFree hw
  have hsilent : Session.Setting.Silent
      { graph := g, registry := e₀.registry, clock := c.clock } := by
    rw [h.kept.registry]
    exact fun node hn x hx => hsecluded.silent node.kind x hx (hfree node hn)
  rw [runOf, Session.run_of_silent hsilent _ _ e₀.network e₀.network]

/-- **What one engine runs the other one runs**, in front of the same. -/
theorem Runs.shadowed (h : e.Runs c e₀ g s) (hd : Shadows e d) :
    ∃ d₀, d.Runs c d₀ g s ∧ Shadows e₀ d₀ := by
  cases h with
  | opens hopens =>
    refine ⟨d.draw, ?_, hd.draw⟩
    have hruns := Runs.opens ((hd.kept.opening? c.request).trans hopens)
    rw [hd.kept.opened, hd.ids] at hruns
    exact hruns
  | resumes hid hs hc hw =>
    have hstored : d.sessions.find? _ = some s :=
      (congrArg (SortedMap.find? · _) hd.sessions).trans hs
    exact ⟨d, .resumes hid hstored hc (hd.kept.flows ▸ hw), hd⟩

theorem exists_of_graphOf {id : Uuid} (h : e.graphOf id = .ok g) :
    ∃ w, e.flows.find? id = some w ∧ w.graph = g := by
  unfold graphOf at h
  split at h
  · next w hw => exact ⟨w, hw, Except.ok.inj h⟩
  · cases h

/-- A call that runs no session is answered alike. -/
theorem Shadows.execute_of_not_runs (h : Shadows e d) (hruns : ¬ ∃ e₀ g s, e.Runs c e₀ g s) :
    d.execute c.request c.clock = ((e.execute c.request c.clock).1, d) := by
  have hgraph : d.graphOf = e.graphOf := by
    funext id
    rw [graphOf, graphOf, h.kept.flows]
  have hsession : d.sessionOf = e.sessionOf := by
    funext id w
    rw [sessionOf, sessionOf, Session.Store.find?, Session.Store.find?, h.sessions]
  cases hid : c.request.sessionId with
  | none =>
    simp only [execute, hid, startSession, hgraph]
    cases hflow : e.graphOf c.request.workflowId with
    | error reason => rfl
    | ok g =>
      cases hstart : g.start? with
      | none => simp only [hstart]
      | some node =>
        obtain ⟨w, hw, rfl⟩ := exists_of_graphOf hflow
        have hopens : e.opening? c.request = some (w.graph, node) := by
          simp only [opening?, hid, hw, Option.bind_some, hstart, Option.map_some]
        exact absurd ⟨_, _, _, .opens hopens⟩ hruns
  | some id =>
    simp only [execute, hid, resumeSession, hgraph, hsession]
    cases hof : e.sessionOf id c.request.workflowId with
    | error reason => rfl
    | ok s =>
      by_cases hc : s.status = .completed
      · simp only [if_pos hc]
      · simp only [if_neg hc]
        cases hflow : e.graphOf s.workflowId with
        | error reason => rfl
        | ok g =>
          obtain ⟨hs, hflowId⟩ := sessionOf_eq_ok hof
          obtain ⟨w, hw, rfl⟩ := exists_of_graphOf hflow
          exact absurd ⟨_, _, _, .resumes ⟨hid, hflowId.symm⟩ hs hc hw⟩ hruns

/-- **One engine answers a call that is not lost as the other one does**,
and afterwards they are alike again. -/
theorem Shadows.execute (h : Shadows e d) (hkept : ¬ e.Loses c) :
    (d.execute c.request c.clock).1 = (e.execute c.request c.clock).1 ∧
      Shadows (e.execute c.request c.clock).2 (d.execute c.request c.clock).2 := by
  by_cases hruns : ∃ e₀ g s, e.Runs c e₀ g s
  · obtain ⟨e₀, g, s, hruns⟩ := hruns
    obtain ⟨d₀, hruns', h₀⟩ := hruns.shadowed h
    have hrun : d₀.runOf g s c d₀.network = e₀.runOf g s c e₀.network := by
      rw [h₀.kept.runOf, h₀.network]
    have hput := Session.Store.put_of_pass (hruns.passes hkept)
      (e₀.runOf g s c e₀.network).session
    have hput' := Session.Store.put_of_pass (h₀.gate _) (e₀.runOf g s c e₀.network).session
    rw [execute_of_runs hruns, execute_of_runs hruns', response_serve, response_serve, hrun, hput,
      hput']
    refine ⟨rfl, ⟨h₀.kept.flows, h₀.kept.registry, h₀.kept.settings, h₀.kept.stream⟩, h₀.drawn,
      congrArg Session.Run.network hrun, ?_, ?_⟩
    · rw [sessions_serve_eq_put, sessions_serve_eq_put, hrun, hput, hput', h₀.sessions]
    · exact open_serve h₀.gate g s c
  · rw [h.execute_of_not_runs hruns, Engine.execute_of_not_runs hruns]
    exact ⟨rfl, h⟩

/-- **A lost call is passed over**: afterwards the engines are alike
again. -/
theorem Shadows.passOver (h : Shadows e d) (hsecluded : e.Secluded) (hlost : e.Loses c) :
    Shadows (e.execute c.request c.clock).2 (d.passOver c) := by
  obtain ⟨e₀, g, s, hruns⟩ := (loses_iff.1 hlost).1
  -- both engines have drawn an identifier if the call was to open a session
  have hd : Shadows e₀ (d.passOver c) := by
    rw [Engine.passOver, h.kept.opening?]
    cases hruns with
    | opens hopens =>
      rw [hopens]
      exact h.draw
    | resumes hid =>
      rw [opening?, hid.1]
      exact h
  have hsame := (execute_of_loses hlost).1
  rw [execute_of_runs hruns, ← hruns.sessions_eq] at hsame
  rw [execute_of_runs hruns]
  exact ⟨⟨hd.kept.flows, hd.kept.registry, hd.kept.settings, hd.kept.stream⟩, hd.drawn,
    hd.network.trans (hsecluded.network_runOf hruns).symm, hd.sessions.trans hsame.symm, hd.gate⟩

/-- **After any calls** an engine is like the one that has passed over the
lost ones. -/
theorem Shadows.after (h : Shadows e d) (hsecluded : e.Secluded) (calls : List Call) :
    Shadows (e.after calls) (d.afterKept (e.marked calls)) := by
  induction calls generalizing e d with
  | nil => exact h
  | cons c calls ih =>
    refine ih ?_ (hsecluded.execute c)
    simp only [decide_eq_true_eq]
    split
    · next hlost => exact h.passOver hsecluded hlost
    · next hkept => exact (h.execute hkept).2

/-! ## The main statement -/

/-- **Lost calls leave no trace.** Whatever the store of sessions refuses,
after any calls it holds exactly the sessions of an engine whose store
refuses nothing and that has passed over the lost calls. The next call
goes on with the session that is stored there, and is answered as there
unless it is lost itself. A lost call leaves the stored sessions, is
answered as a failure and is logged as one. What is answered as a success
shows the session that is stored. -/
theorem lost_calls_leave_no_trace
    (hsilent : ∀ kind x, e.registry.resolve? kind = some x → kind ≠ Step.callKind → x.Silent)
    (hfree : ∀ w ∈ e.flows.flows, w.graph.CallFree) (hfiled : e.sessions.Filed)
    (calls : List Call) :
    let e' := e.after calls
    let d := e.unrefusing.afterKept (e.marked calls)
    d.sessions.Open ∧ e'.sessions.sessions = d.sessions.sessions ∧
    ∀ c : Call,
      let response := (e'.execute c.request c.clock).1
      let e'' := (e'.execute c.request c.clock).2
      (∀ e₀ g s id, e'.Runs c e₀ g s → c.request.sessionId = some id →
        d.sessions.find? id = some s) ∧
      (¬ e'.Loses c → response = (d.execute c.request c.clock).1) ∧
      (e'.Loses c → e''.sessions.sessions = e'.sessions.sessions ∧ response.success = false ∧
        ∃ x, e''.audit = e'.audit.record x ∧ x.action = .executionFailed ∧
          x.workflowId = c.request.workflowId ∧ x.sessionId = some response.sessionId) ∧
      (response.success = true →
        ∃ s, e''.sessions.find? response.sessionId = some s ∧ response.Shows s) := by
  intro e' d
  have hsecluded : e.Secluded := ⟨hsilent, hfree⟩
  have hshadows : Shadows e' d := (shadows_unrefusing e).after hsecluded calls
  refine ⟨hshadows.gate, hshadows.sessions.symm, fun c => ⟨fun e₀ g s id hruns hid => ?_,
    fun hkept => (hshadows.execute hkept).1.symm, execute_of_loses,
    stored_of_success (filed_after hfiled calls)⟩⟩
  cases hruns with
  | opens hopens =>
    rw [opening?, hid] at hopens
    cases hopens
  | @resumes id' s w hn hs =>
    obtain rfl : id = id' := Option.some.inj (hid.symm.trans hn.1)
    exact (congrArg (SortedMap.find? · id) hshadows.sessions).trans hs

/-! ## A store that refuses twice -/

/-- An engine that keeps the flow that asks once, with a store that
refuses the second and the third write. -/
def flakyEngine : Engine :=
  { askingEngine with
    sessions := { gate := {
      refusal := fun k => if k = 1 ∨ k = 2 then some "read-only" else none } } }

/-- Two sessions are opened, of which the second one is not stored, and
both are answered; the answer to the first one is lost. -/
def flakyCalls : List Call := [
  askingCall none none .nil,
  askingCall none none .nil,
  askingCall (some firstId) (some (.string "x")) .nil,
  askingCall (some secondId) (some (.string "x")) .nil]

/-- The first session is answered again. -/
def flakyCall : Call :=
  askingCall (some firstId) (some (.string "y")) .nil

/-- **The first session is completed by its second answer**, as if there
had been no other, and the second session is not there. -/
theorem flaky_calls_leave_no_trace :
    let e := flakyEngine.after flakyCalls
    let e' := (e.execute flakyCall.request flakyCall.clock).2
    (flakyEngine.marked flakyCalls).map (·.2) = [false, true, true, false] ∧
    e.sessions.find? secondId = none ∧
    ∃ s, e'.sessions.find? firstId = some s ∧ s.status = .completed ∧
      s.state = .ofEntries [("userResponse", .string "y")] := by
  obtain ⟨-, hsessions, hcall⟩ := lost_calls_leave_no_trace (e := flakyEngine)
    (fun _ _ => Step.Registry.silent_of_resolve?_builtIn) (by decide) (fun _ _ => nofun) flakyCalls
  obtain ⟨-, -, -, hstored⟩ := hcall flakyCall
  obtain ⟨s, hs, hshows⟩ := hstored (by decide +kernel)
  have hid : ((flakyEngine.after flakyCalls).execute flakyCall.request
      flakyCall.clock).1.sessionId = firstId := by decide +kernel
  refine ⟨by decide +kernel, ?_, s, hid ▸ hs, ?_, ?_⟩
  · rw [Session.Store.find?, hsessions]
    decide +kernel
  · exact hshows.status.symm.trans (by decide +kernel)
  · exact hshows.state.symm.trans (by decide +kernel)

end Engine

end Flowchart
