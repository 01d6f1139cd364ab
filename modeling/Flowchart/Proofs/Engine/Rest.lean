import Flowchart.Proofs.Engine.Interleaving
import Flowchart.Proofs.Session.Rest
import Flowchart.Proofs.Success
import Mathlib.Data.List.Induction

/-!
# Stored sessions are at rest

Between calls every stored session stands under its own identifier, is
not running, and has no answer left (`rests_after`). The response to a
call shows the session as it is stored, whether the call has run it or
not; only where the store refuses the write it does not, and then it says
so (`sessions_at_rest`).
-/

namespace Flowchart

/-- Every session is at rest, under its own identifier. -/
def Session.Store.Rests (st : Session.Store) : Prop :=
  ∀ id s, st.find? id = some s → s.id = id ∧ s.status ≠ .running ∧ s.input = none

namespace Engine

/-- **A response shows a session**: all that it says of one is so. -/
structure Response.Shows (r : Response) (s : Session) : Prop where
  sessionId : r.sessionId = s.id
  status : r.status = s.status
  requiresInput : r.requiresInput = true ↔ s.status = .awaitingInput
  isComplete : r.isComplete = true ↔ s.status = .completed
  current : r.current = some s.current
  state : r.state = s.state
  output : r.output = s.lastOutput
  history : r.history = s.history

variable {e e₀ : Engine} {c : Call} {g : Graph} {s : Session} {calls : List Call}

theorem Response.shows_ofSession (s : Session) (message error : Option String) :
    (Response.ofSession s message error).Shows s where
  sessionId := rfl
  status := rfl
  requiresInput := beq_iff_eq
  isComplete := beq_iff_eq
  current := rfl
  state := rfl
  output := rfl
  history := rfl

/-- A session that could not be stored is shown nevertheless. -/
theorem Response.Shows.unstored {r : Response} (h : r.Shows s) (err : Storage.Error) :
    (Engine.unstored r err).Shows s := by
  obtain ⟨hid, hstatus, hrequires, hcomplete, hcurrent, hstate, houtput, hhistory⟩ := h
  exact ⟨hid, hstatus, hrequires, hcomplete, hcurrent, hstate, houtput, hhistory⟩

/-! ## One call -/

/-- What a run says, if its session is stored. -/
def told (run : Session.Run) : Response :=
  .ofSession run.session run.outcome.message? run.outcome.error?

theorem response_serve (e : Engine) (g : Graph) (s : Session) (c : Call) :
    (e.serve g s c).1 =
      match (e.sessions.put (e.runOf g s c e.network).session).1 with
      | .ok () => told (e.runOf g s c e.network)
      | .error err => unstored (told (e.runOf g s c e.network)) err := rfl

theorem sessions_serve_eq_put (e : Engine) (g : Graph) (s : Session) (c : Call) :
    (e.serve g s c).2.sessions = (e.sessions.put (e.runOf g s c e.network).session).2 := rfl

/-- **A response shows the session that was run.** -/
theorem shows_serve (e : Engine) (g : Graph) (s : Session) (c : Call) :
    (e.serve g s c).1.Shows (e.runOf g s c e.network).session := by
  rw [response_serve]
  split
  · exact Response.shows_ofSession ..
  · next err _ => exact (Response.shows_ofSession ..).unstored err

/-- **A session that the store takes is found there** under its
identifier, and nothing else changes. -/
theorem find?_serve_of_pass (hpass : e.sessions.gate.refusal e.sessions.gate.tried = none)
    (g : Graph) (s : Session) (c : Call) (id : String) :
    (e.serve g s c).2.sessions.find? id =
      if (e.runOf g s c e.network).session.id = id then some (e.runOf g s c e.network).session
      else e.sessions.find? id := by
  rw [sessions_serve_eq_put, Session.Store.put_of_pass hpass]
  exact SortedMap.find?_insert ..

/-- **A session that the store refuses** leaves the others as they are,
and the response says that it is not stored. -/
theorem serve_of_refusal {reason : String}
    (hrefused : e.sessions.gate.refusal e.sessions.gate.tried = some reason)
    (g : Graph) (s : Session) (c : Call) :
    (e.serve g s c).2.sessions.sessions = e.sessions.sessions ∧
      (e.serve g s c).1.success = false ∧
      (e.serve g s c).1.error =
        some ("failed to persist session: " ++ (Storage.Error.backend reason).message) := by
  have hput := Session.Store.put_of_refusal hrefused (e.runOf g s c e.network).session
  rw [sessions_serve_eq_put, response_serve, hput]
  exact ⟨rfl, rfl, rfl⟩

/-- What a call runs is in front of the stored sessions. -/
theorem Runs.sessions_eq (h : e.Runs c e₀ g s) : e₀.sessions = e.sessions := by
  cases h <;> rfl

/-- **What holds of the stored sessions holds after one call more**, if it
holds of what the call has run. -/
theorem stored_execute {P : String → Session → Prop}
    (h : ∀ id s, e.sessions.find? id = some s → P id s)
    (hrun : ∀ e₀ g s, e.Runs c e₀ g s →
      P (e₀.runOf g s c e₀.network).session.id (e₀.runOf g s c e₀.network).session) :
    ∀ id s, (e.execute c.request c.clock).2.sessions.find? id = some s → P id s := by
  obtain ⟨e₀, g, s, hruns⟩ | ⟨id, s, message, error, -, -, hshown⟩ | ⟨-, id, reason, hrejected⟩ :=
    execute_cases e c
  · rw [execute_of_runs hruns]
    rw [← hruns.sessions_eq] at h
    intro id t ht
    cases hgate : e₀.sessions.gate.refusal e₀.sessions.gate.tried with
    | none =>
      rw [find?_serve_of_pass hgate] at ht
      split at ht
      · next hid =>
        obtain rfl := Option.some.inj ht
        exact hid ▸ hrun e₀ g s hruns
      · exact h id t ht
    | some reason =>
      have hsame := (serve_of_refusal hgate g s c).1
      rw [Session.Store.find?, hsame] at ht
      exact h id t ht
  · rw [hshown]
    exact h
  · rw [hrejected]
    exact h

/-- **One call more** leaves the stored sessions at rest: the one that it
has run is, and the others are not touched. -/
theorem rests_execute (h : e.sessions.Rests) (c : Call) :
    (e.execute c.request c.clock).2.sessions.Rests := by
  -- the session that is put in comes from a run, and so does not depend on what it was before
  refine stored_execute (P := fun id s => s.id = id ∧ s.status ≠ .running ∧ s.input = none) h ?_
  intro e₀ g s _
  have hrested := Session.rested_run { graph := g, registry := e₀.registry, clock := c.clock }
    e₀.settings.maxSteps { s with input := c.request.input } e₀.network
  exact ⟨rfl, hrested.notRunning, hrested.input⟩

/-- **After any calls the stored sessions are at rest.** -/
theorem rests_after (h : e.sessions.Rests) (calls : List Call) :
    (e.after calls).sessions.Rests := by
  induction calls using List.reverseRecOn with
  | nil => exact h
  | append_singleton calls c ih =>
    rw [after_concat]
    exact rests_execute ih c

/-- An empty store is at rest. -/
theorem rests_of_empty {st : Session.Store} (h : st.sessions = .empty) : st.Rests := by
  intro id s hs
  rw [Session.Store.find?, h] at hs
  cases hs

/-! ## The main statement -/

/-- **Sessions are at rest between calls.** A run, of whatever session,
leaves it at rest (`Session.Rested`). So from an empty store calls lead to
stores only in which every session is at rest under its own identifier.
A call that runs a session shows it as the run has left it, and so as it
is stored; if the store has refused it, the response is no success and
the store is as before. A call that names a stored session and does not
run it shows it as it is stored. -/
theorem sessions_at_rest :
    (∀ (setting : Session.Setting) (budget : Nat) (s : Session) (n : Web.Network),
      Session.Rested setting s (s.steps setting budget n) (s.run setting budget n)) ∧
    ∀ e : Engine, e.sessions.sessions = .empty → ∀ calls : List Call,
      (∀ id s, (e.after calls).sessions.find? id = some s →
        s.id = id ∧ s.status ≠ .running ∧ s.input = none) ∧
      ∀ c : Call,
        let gate := (e.after calls).sessions.gate
        let response := ((e.after calls).execute c.request c.clock).1
        let e' := ((e.after calls).execute c.request c.clock).2
        (∀ e₀ g s, (e.after calls).Runs c e₀ g s →
          response.Shows (e₀.runOf g s c e₀.network).session ∧
          match gate.refusal gate.tried with
          | none => e'.sessions.find? response.sessionId =
              some (e₀.runOf g s c e₀.network).session
          | some reason => e'.sessions.sessions = (e.after calls).sessions.sessions ∧
              response.success = false ∧ response.error =
                some ("failed to persist session: " ++ (Storage.Error.backend reason).message)) ∧
        ((¬ ∃ e₀ g s, (e.after calls).Runs c e₀ g s) → e' = e.after calls ∧
          ∀ id s, c.Names id s.workflowId → (e.after calls).sessions.find? id = some s →
            response.Shows s) := by
  refine ⟨Session.rested_run, fun e hempty calls => ⟨rests_after (rests_of_empty hempty) calls,
    fun c => ⟨fun e₀ g s hruns => ?_, fun hidle => ?_⟩⟩⟩
  · rw [execute_of_runs hruns, ← hruns.sessions_eq]
    have hshows := shows_serve e₀ g s c
    refine ⟨hshows, ?_⟩
    cases hgate : e₀.sessions.gate.refusal e₀.sessions.gate.tried with
    | none => exact (find?_serve_of_pass hgate ..).trans (if_pos hshows.sessionId.symm)
    | some reason => exact serve_of_refusal hgate g s c
  · obtain ⟨e₀, g, s, hruns⟩ | ⟨id, s, message, error, hn, hs, hshown⟩ | ⟨hno, id, reason, hr⟩ :=
      execute_cases (e.after calls) c
    · exact absurd ⟨e₀, g, s, hruns⟩ hidle
    · rw [hshown]
      refine ⟨rfl, fun id' t hn' ht => ?_⟩
      obtain rfl : id = id' := Option.some.inj (hn.1.symm.trans hn'.1)
      obtain rfl : s = t := Option.some.inj (hs.symm.trans ht)
      exact Response.shows_ofSession s message error
    · rw [hr]
      exact ⟨rfl, fun id s hn hs => absurd hs (hno id s hn)⟩

/-- **The second session that asks is answered**: it is stored as the
response shows it, completed at its end. -/
theorem asking_sessions_at_rest :
    let e := askingEngine.after askingCalls
    let c := askingCall (some secondId) (some (.string "x")) .nil
    (∃ s, e.sessions.find? secondId = some s ∧ s.status ≠ .running ∧ s.input = none ∧
      e.Runs c e askingGraph s) ∧
    ∃ t, (e.execute c.request c.clock).2.sessions.find? secondId = some t ∧
      (e.execute c.request c.clock).1.Shows t ∧ t.status = .completed := by
  obtain ⟨-, hengine⟩ := sessions_at_rest
  obtain ⟨hrests, hcall⟩ := hengine askingEngine rfl askingCalls
  obtain ⟨hran, -⟩ := hcall (askingCall (some secondId) (some (.string "x")) .nil)
  obtain ⟨s, hs⟩ : ∃ s, (askingEngine.after askingCalls).sessions.find? secondId = some s :=
    Option.isSome_iff_exists.1 (by decide +kernel)
  obtain ⟨-, hrunning, hinput⟩ := hrests secondId s hs
  have hflow : s.workflowId = .nil := eq_of_map_eq_some (f := (·.workflowId)) hs (by decide +kernel)
  have hstatus : s.status = .awaitingInput :=
    eq_of_map_eq_some (f := (·.status)) hs (by decide +kernel)
  obtain ⟨w, hw, hgraph⟩ : ∃ w, (askingEngine.after askingCalls).flows.find? .nil = some w ∧
      w.graph = askingGraph :=
    Option.map_eq_some_iff.1 (by decide +kernel)
  have hruns : (askingEngine.after askingCalls).Runs
      (askingCall (some secondId) (some (.string "x")) .nil) (askingEngine.after askingCalls)
        askingGraph s :=
    hgraph ▸ .resumes ⟨rfl, hflow.symm⟩ hs (by rw [hstatus]; nofun) (hflow ▸ hw)
  obtain ⟨hshows, hstored⟩ := hran _ _ _ hruns
  have hgate : (askingEngine.after askingCalls).sessions.gate.refusal
      (askingEngine.after askingCalls).sessions.gate.tried = none := by decide +kernel
  rw [hgate] at hstored
  refine ⟨⟨s, hs, hrunning, hinput, hruns⟩, _, ?_, hshows, ?_⟩
  · have hid : ((askingEngine.after askingCalls).execute
        { workflowId := .nil, sessionId := some secondId, input := some (.string "x") }
        { now := .epoch, stamp := "" }).1.sessionId = secondId := by decide +kernel
    exact hid ▸ hstored
  · exact hshows.status.symm.trans (by decide +kernel)

end Engine

end Flowchart
