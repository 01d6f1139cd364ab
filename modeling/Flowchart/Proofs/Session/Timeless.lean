import Flowchart.Proofs.Session.Outside
import Flowchart.Proofs.Session.Record

/-!
# Runs at another time

The clock of a call shows in a session as the times of its steps and of
its last change; `timeless` takes these out. Nothing else of a run
depends on when it takes place, as long as the executors make the same of
a step whatever stamp it bears (`Steady`), or the steps bear the same
stamps: runs of sessions that are equal but for times are equal but for
times (`run_timeless_eq`).
-/

namespace Flowchart

/-- The executors make the same of a step at two stamps. -/
def Step.Registry.Steady (r : Step.Registry) (a b : String) : Prop :=
  ∀ kind x, r.resolve? kind = some x → ∀ (input : Step.Input) n,
    x.run { input with stamp := a } n = x.run { input with stamp := b } n

theorem Step.Registry.Steady.refl (r : Step.Registry) (a : String) : r.Steady a a :=
  fun _ _ _ _ _ => rfl

/-- At every step both clocks show the same stamp. -/
def Clock.SameStamps (c d : Clock) : Prop :=
  ∀ i, (c.moment i).stamp = (d.moment i).stamp

/-- The clock without times; the stamps stay. -/
def Clock.timeless (c : Clock) : Clock where
  now := .epoch
  stamp := c.stamp
  moment := fun i => { c.moment i with now := .epoch }

namespace Session

/-- The step without its time. -/
def Entry.timeless (e : Entry) : Entry :=
  { e with executedAt := .epoch }

/-- The session without the times of its steps and of its last change. -/
def timeless (s : Session) : Session :=
  { s with history := s.history.map Entry.timeless, updatedAt := .epoch }

/-- The run with its session without times. -/
def Run.timeless (r : Run) : Run :=
  { r with session := r.session.timeless }

variable {setting : Setting} {s t : Session} {n : Web.Network}

/-! ## Taking times out commutes with a run -/

/-- To take times out is a way to keep the past. -/
theorem moves_timeless (c : Clock) :
    (⟨List.map Entry.timeless, fun _ => .epoch⟩ : Retelling).Moves c c.timeless := by
  refine ⟨fun es => ?_, fun es nodeId kind r => List.map_append, fun es => rfl⟩
  rw [List.length_map]
  rfl

/-- **A run commutes with taking times out.** -/
theorem runFrom_timeless (setting : Setting) (budget left : Nat) (s : Session)
    (n : Web.Network) :
    runFrom (setting.by setting.clock.timeless) budget left s.timeless n =
      (runFrom setting budget left s n).timeless :=
  runFrom_retold (moves_timeless setting.clock) budget left s n

/-! ## Stamps that make no difference -/

variable {graph : Graph} {registry : Step.Registry} {c d : Clock} {budget left : Nat}

/-- A turn does not depend on a stamp that makes no difference. -/
theorem turn_congr_clock (h : registry.Steady (s.moment c).stamp (s.moment d).stamp)
    (hnow : (s.moment c).now = (s.moment d).now) (n : Web.Network) :
    turn { graph, registry, clock := c } s n = turn { graph, registry, clock := d } s n := by
  cases ha : arrive graph s with
  | error e => simp only [turn, ha]
  | ok node =>
    cases hp : prepare registry node with
    | error reason => simp only [turn, ha, hp]
    | ok p =>
      have hprepared : prepare registry node = .ok (p.1, p.2) := hp
      -- the turns differ in the stamp of their step only
      have hx := h node.kind p.1 (prepare_ok hprepared).1
        { nodeId := node.id, config := p.2, state := s.state, answer := s.input } n
      simp only [turn, ha, hp, step, stepInput, Step.Executor.execute, hx, hnow]

/-- **A run does not depend on stamps that make no difference** to the
steps that it may take. -/
theorem runFrom_congr_clock (n : Web.Network)
    (h : ∀ i, s.history.length ≤ i → i < s.history.length + left →
      registry.Steady (c.moment i).stamp (d.moment i).stamp ∧
        (c.moment i).now = (d.moment i).now) :
    runFrom { graph, registry, clock := c } budget left s n =
      runFrom { graph, registry, clock := d } budget left s n := by
  induction left generalizing s n with
  | zero =>
    cases ha : arrive graph s with
    | error e => rw [runFrom_of_arrive_error ha, runFrom_of_arrive_error ha]
    | ok node => rw [runFrom_zero ha, runFrom_zero ha]
  | succ left ih =>
    obtain ⟨hsteady, hnow⟩ := h s.history.length (Nat.le_refl _) (by omega)
    rw [runFrom_succ, runFrom_succ, turn_congr_clock hsteady hnow]
    cases ht : turn { graph, registry, clock := d } s n with
    | error run => rfl
    | ok p =>
      obtain ⟨-, ⟨v, hhistory⟩, -⟩ := of_turn_ok ht
      have hlength : p.1.history.length = s.history.length + 1 := by rw [hhistory]; simp
      exact ih _ fun i hle hlt => h i (by omega) (by omega)

/-- **Runs of sessions that are equal but for times are equal but for
times**, whenever they take place. -/
theorem run_timeless_eq (hs : s.timeless = t.timeless) (budget : Nat) (n : Web.Network)
    (h : ∀ i, s.history.length ≤ i → i < s.history.length + budget →
      registry.Steady (c.moment i).stamp (d.moment i).stamp) :
    (s.run { graph, registry, clock := c } budget n).timeless =
      (t.run { graph, registry, clock := d } budget n).timeless := by
  let u : Session := ({ s with status := .running } : Session).timeless
  have hu : u = ({ t with status := .running } : Session).timeless :=
    congrArg (fun v : Session => { v with status := .running }) hs
  have hlength : u.history.length = s.history.length := List.length_map ..
  have hsteady (i : Nat) (hle : u.history.length ≤ i) (hlt : i < u.history.length + budget) :
      registry.Steady (c.timeless.moment i).stamp (d.timeless.moment i).stamp ∧
        (c.timeless.moment i).now = (d.timeless.moment i).now := by
    rw [hlength] at hle hlt
    exact ⟨h i hle hlt, rfl⟩
  calc (s.run { graph, registry, clock := c } budget n).timeless
      = runFrom { graph, registry, clock := c.timeless } budget budget u n :=
        (runFrom_timeless { graph, registry, clock := c } budget budget _ n).symm
    _ = runFrom { graph, registry, clock := d.timeless } budget budget u n :=
        runFrom_congr_clock n hsteady
    _ = (t.run { graph, registry, clock := d } budget n).timeless := by
        rw [hu]
        exact runFrom_timeless { graph, registry, clock := d } budget budget _ n

end Session

end Flowchart
