import Flowchart.Proofs.Session.Turn
import Flowchart.Proofs.Step.BuiltIn

/-!
# Runs that leave the outside alone

Where no node of a graph sends requests, a run neither reads nor changes
the outside (`run_of_silent`): the session after it is a function of the
session before it alone.
-/

namespace Flowchart

/-- No node of the graph sends requests. -/
def Graph.CallFree (g : Graph) : Prop :=
  ∀ node ∈ g.nodes, node.kind ≠ Step.callKind

instance (g : Graph) : Decidable g.CallFree :=
  inferInstanceAs (Decidable (∀ node ∈ g.nodes, node.kind ≠ Step.callKind))

namespace Session

/-- Every executor that a node of the graph is resolved to is silent. -/
def Setting.Silent (setting : Setting) : Prop :=
  ∀ node ∈ setting.graph.nodes, ∀ x, setting.registry.resolve? node.kind = some x → x.Silent

variable {setting : Setting} {s : Session}

/-- A graph without calls is silent under the built-in executors. -/
theorem silent_of_callFree {g : Graph} (h : g.CallFree) (clock : Clock) :
    Setting.Silent { graph := g, registry := .builtIn, clock } :=
  fun node hn _ hx => Step.Registry.silent_of_resolve?_builtIn hx (h node hn)

/-- What is prepared for a node is an executor of its kind and its own
configuration. -/
theorem prepare_ok {r : Step.Registry} {node : Graph.Node} {executor : Step.Executor}
    {config : NodeConfig} (h : prepare r node = .ok (executor, config)) :
    r.resolve? node.kind = some executor ∧ node.config? = .ok config := by
  unfold prepare at h
  split at h
  · cases h
  · next x hx =>
    split at h
    · cases h
    · next c hc =>
      obtain ⟨rfl, rfl⟩ := Prod.mk.inj (Except.ok.inj h)
      exact ⟨hx, hc⟩

theorem Visit.execute_of_silent (h : setting.Silent) (v : Visit setting s)
    (n m : Web.Network) : v.result n = v.result m ∧ v.network n = n := by
  have hsilent : v.executor.Silent :=
    h v.node (mem_of_arrive_ok v.arrived).1 v.executor (prepare_ok v.prepared).1
  have hx := hsilent.execute v.input n m
  rw [Visit.result, Visit.network, hx]
  exact ⟨rfl, rfl⟩

/-- A turn in a silent setting is the same in front of every outside. -/
theorem turn_of_silent (h : setting.Silent) (s : Session) (n m : Web.Network) :
    turn setting s n =
      match turn setting s m with
      | .error run => .error { run with network := n }
      | .ok (s, _) => .ok (s, n) := by
  cases ha : arrive setting.graph s with
  | error e => simp only [turn, ha, Run.of]
  | ok node =>
    cases hp : prepare setting.registry node with
    | error reason => simp only [turn, ha, hp, Run.of]
    | ok p =>
      let v : Visit setting s := ⟨node, p.1, p.2, ha, hp⟩
      obtain ⟨hr, hn⟩ := v.execute_of_silent h n m
      have hset : v.settled n = v.settled m := by
        simp only [Visit.settled, Visit.recorded, Visit.entry, hr]
      rw [turn_of_visit v, turn_of_visit v, hset, hn]
      rcases v.settled m with ⟨t, _ | o⟩ <;> rfl

theorem runFrom_of_silent (h : setting.Silent) (budget left : Nat) (s : Session)
    (n m : Web.Network) :
    runFrom setting budget left s n = { runFrom setting budget left s m with network := n } := by
  induction left generalizing s m with
  | zero =>
    cases ha : arrive setting.graph s with
    | error e => rw [runFrom_of_arrive_error ha, runFrom_of_arrive_error ha]; rfl
    | ok node => rw [runFrom_zero ha, runFrom_zero ha]; rfl
  | succ left ih =>
    rw [runFrom_succ, runFrom_succ, turn_of_silent h s n m]
    cases turn setting s m with
    | error run => rfl
    | ok p => exact ih p.1 p.2

/-- **A run in a silent setting neither reads nor changes the outside.** -/
theorem run_of_silent (h : setting.Silent) (budget : Nat) (s : Session) (n m : Web.Network) :
    s.run setting budget n = { s.run setting budget m with network := n } :=
  runFrom_of_silent h budget budget _ n m

end Session

end Flowchart
