import Flowchart.Proofs.Session.Outside
import Flowchart.Proofs.Step.Keyed

/-!
# Sessions keep proper documents

In no document that a session holds, in its state, its history or its
pending answer, has an object a key twice, and every run keeps it so
(`Keyed.run`) if the executors do.
-/

namespace Flowchart

namespace Session

/-- **No object in the session has a key twice.** -/
structure Keyed (s : Session) : Prop where
  /-- None in the state has. -/
  state : s.state.Keyed
  /-- None in what the steps put out has. -/
  history : ∀ e ∈ s.history, e.output.Keyed
  /-- None in the pending answer has. -/
  input : ∀ v ∈ s.input, v.Keyed

variable {setting : Setting} {s s' : Session} {n n' : Web.Network} {r : Run}

theorem keyed_start {state : StateMap} (h : state.Keyed) (id : String) (workflowId : Uuid)
    (userId node : String) (now : Instant) : (start id workflowId userId node state now).Keyed :=
  ⟨h, fun _ he => absurd he List.not_mem_nil, nofun⟩

/-- The session is given an answer. -/
theorem Keyed.withInput (h : s.Keyed) {input : Option Json} (hinput : ∀ v ∈ input, v.Keyed) :
    Keyed { s with input } :=
  ⟨h.state, h.history, hinput⟩

/-! ## One turn -/

/-- **A step of the session makes proper documents.** -/
theorem Keyed.result (h : s.Keyed) (hkeeps : setting.registry.KeepsKeys) (v : Visit setting s)
    (n : Web.Network) : (v.result n).Keyed := by
  obtain ⟨hresolve, hconfig⟩ := prepare_ok v.prepared
  have hinput : v.input.Keyed := ⟨NodeConfig.keyed_of_ofText? hconfig, h.state, h.input⟩
  exact (hkeeps _ _ hresolve).execute hinput n

/-- The session with the step recorded. -/
theorem Keyed.recorded (h : s.Keyed) (v : Visit setting s) (hresult : (v.result n).Keyed) :
    (v.recorded n).Keyed := by
  refine ⟨h.state, fun e he => ?_, nofun⟩
  rcases List.mem_append.1 he with he | he
  · exact h.history e he
  · obtain rfl := List.mem_singleton.1 he
    exact hresult.output

/-- However a turn is settled, the documents are those of the session and
of the step. -/
theorem Keyed.settled {g : Graph} {node : Graph.Node} {r : Step.Result}
    {out : Session × Option Outcome} (h : s.Keyed) (hupdates : r.updates.Keyed)
    (hsettled : Settled g node r s out) : out.1.Keyed := by
  have hstate : StateMap.Keyed (s.state.overlay r.updates) := h.state.overlay hupdates
  cases hsettled with
  | refused => exact ⟨h.state, h.history, h.input⟩
  | failed => exact ⟨h.state, h.history, nofun⟩
  | asked => exact ⟨hstate, h.history, h.input⟩
  | finished => exact ⟨hstate, h.history, nofun⟩
  | deadEnd => exact ⟨hstate, h.history, nofun⟩
  | moved => exact ⟨hstate, h.history, h.input⟩

theorem Keyed.fail (h : s.Keyed) (reason : Failure) : (s.fail reason).1.Keyed :=
  ⟨h.state, h.history, nofun⟩

theorem Keyed.of_turn_ok (h : s.Keyed) (hkeeps : setting.registry.KeepsKeys)
    (hturn : turn setting s n = .ok (s', n')) : s'.Keyed := by
  obtain ⟨v, id, -, -, -, -, rfl, -⟩ := visit_of_turn_ok hturn
  have hresult := h.result hkeeps v n
  have hrecorded := h.recorded v hresult
  exact ⟨hrecorded.state.overlay hresult.updates, hrecorded.history, hrecorded.input⟩

theorem Keyed.of_turn_error (h : s.Keyed) (hkeeps : setting.registry.KeepsKeys)
    (hturn : turn setting s n = .error r) : r.session.Keyed := by
  obtain ⟨e, ha, he⟩ | ⟨node, reason, -, -, he⟩ | ⟨⟨v⟩⟩ := turn_cases setting s n
  · rw [he] at hturn
    obtain rfl := Except.error.inj hturn
    obtain ⟨-, rfl⟩ | ⟨node, -, -, rfl⟩ := arrive_error ha
    · exact h.fail (.nodeNotFound s.current)
    · exact ⟨h.state, h.history, nofun⟩
  · rw [he] at hturn
    obtain rfl := Except.error.inj hturn
    exact h.fail reason
  · have hresult := h.result hkeeps v n
    have hsettled := (h.recorded v hresult).settled hresult.updates
      (settled_settle setting.graph v.node (v.result n) (v.recorded n))
    change (v.settled n).1.Keyed at hsettled
    rw [turn_of_visit v] at hturn
    rcases hout : v.settled n with ⟨t, _ | o⟩ <;> rw [hout] at hturn hsettled
    · cases hturn
    · obtain rfl := Except.error.inj hturn
      exact hsettled

/-! ## Runs -/

/-- **A run makes proper documents.** -/
theorem Keyed.run (h : s.Keyed) (hkeeps : setting.registry.KeepsKeys) (budget : Nat)
    (n : Web.Network) : (s.run setting budget n).session.Keyed := by
  refine runFrom_induction (P := fun t _ => t.Keyed) (Q := fun r => r.session.Keyed)
    ?_ ?_ ?_ budget _ n ⟨h.state, h.history, h.input⟩
  · intro t m t' m' ht hturn
    exact ht.of_turn_ok hkeeps hturn
  · intro t m r ht hturn
    exact ht.of_turn_error hkeeps hturn
  · intro t m ht
    exact ht.fail (.stepBudgetExceeded budget)

end Session

end Flowchart
