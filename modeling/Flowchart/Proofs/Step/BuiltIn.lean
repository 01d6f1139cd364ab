import Flowchart.Step.Registry

/-!
# The built-in executors

A kind of node is resolved to an executor that stands in the registry,
under the kind itself or as that of start nodes
(`mem_of_resolve?`). Of the built-in ones only that of calls reaches
outside (`silent_of_resolve?_builtIn`).
-/

namespace Flowchart

namespace Step

/-- The executor leaves the outside alone, and what it makes does not
depend on it. -/
def Executor.Silent (x : Executor) : Prop :=
  ∀ input n m, x.run input n = ((x.run input m).1, n)

/-- The kind of nodes that send requests. -/
def callKind : String :=
  "APICallNode"

theorem silent_silent (family : String) (run : Input → Except Error Result) :
    (Executor.silent family run).Silent :=
  fun _ _ _ => rfl

/-- A silent executor concludes the same whatever the outside is. -/
theorem Executor.Silent.execute {x : Executor} (h : x.Silent) (input : Input)
    (n m : Web.Network) : x.execute input n = ((x.execute input m).1, n) := by
  simp only [Executor.execute, h input n m]

namespace Registry

variable {r : Registry} {kind : String} {x : Executor}

/-- An executor that is found is registered. -/
theorem mem_of_find? (h : r.find? kind = some x) : (kind, x) ∈ r.executors := by
  unfold find? at h
  obtain ⟨⟨k, y⟩, hp, rfl⟩ := Option.map_eq_some_iff.1 h
  have hk : k = kind := by simpa using List.find?_some hp
  exact hk ▸ List.mem_of_find?_eq_some hp

/-- **A resolved executor is registered**, for the kind or for starts. -/
theorem mem_of_resolve? (h : r.resolve? kind = some x) :
    (kind, x) ∈ r.executors ∨ ("StartNode", x) ∈ r.executors := by
  unfold resolve? at h
  cases hf : r.find? kind with
  | some y =>
    rw [hf] at h
    obtain rfl : y = x := Option.some.inj h
    exact .inl (mem_of_find? hf)
  | none =>
    rw [hf] at h
    split at h
    · exact .inr (mem_of_find? h)
    · cases h

/-- The built-in executors are silent, but for that of calls. -/
theorem silent_of_mem_builtIn (h : (kind, x) ∈ builtIn.executors) (hk : kind ≠ callKind) :
    x.Silent := by
  simp only [builtIn, List.mem_cons, Prod.mk.injEq, List.not_mem_nil, or_false] at h
  rcases h with ⟨-, rfl⟩ | ⟨-, rfl⟩ | ⟨-, rfl⟩ | ⟨-, rfl⟩ | ⟨rfl, -⟩ | ⟨-, rfl⟩ | ⟨-, rfl⟩ |
    ⟨-, rfl⟩ | ⟨-, rfl⟩ | ⟨-, rfl⟩
  case inr.inr.inr.inr.inl => exact absurd rfl hk
  all_goals exact silent_silent _ _

/-- **Only calls reach outside.** -/
theorem silent_of_resolve?_builtIn (h : builtIn.resolve? kind = some x) (hk : kind ≠ callKind) :
    x.Silent := by
  rcases mem_of_resolve? h with h | h
  · exact silent_of_mem_builtIn h hk
  · exact silent_of_mem_builtIn h (by decide)

end Registry

end Step

end Flowchart
