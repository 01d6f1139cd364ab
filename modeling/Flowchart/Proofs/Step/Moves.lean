import Flowchart.Proofs.Step.Plain

/-!
# Where built-in steps lead

A result may name the node to go on with. Of the built-in executors only
that of choices names one, and it is the target of one of the branches
of the node (`nextNode_of_resolve?_builtIn`). Every other step leaves
through an edge.
-/

namespace Flowchart

namespace Step

variable {input : Input} {r : Result} {n : Web.Network} {id : String}

theorem mem_of_firstHolding? {state : StateMap} {branches : List Branch} {b : Branch}
    (h : Choice.firstHolding? state branches = .ok (some b)) : b ∈ branches := by
  induction branches with
  | nil => cases h
  | cons c branches ih =>
    rw [Choice.firstHolding?] at h
    split at h
    · cases h
    · obtain rfl := Option.some.inj (Except.ok.inj h)
      exact List.mem_cons_self
    · exact List.mem_cons_of_mem c (ih h)

/-- **A choice leads where one of its branches leads.** -/
theorem exists_branch_of_choice (h : (choice.run input n).1 = .ok r) (hid : r.nextNode = some id) :
    ∃ branches b, Branch.ofConfig? input.config = .ok branches ∧ b ∈ branches ∧
      b.target = some id := by
  obtain ⟨branches, hbranches, h⟩ := bind_eq_ok_iff.1 h
  refine ⟨branches, ?_⟩
  obtain ⟨taken?, htaken, rfl⟩ := map_eq_ok_iff.1 (mapError_eq_ok_iff.1 h)
  cases taken? with
  | some b =>
    exact ⟨b, mapError_eq_ok_iff.1 hbranches, mem_of_firstHolding? htaken, hid⟩
  | none =>
    -- no branch holds: the step leads where the branch for the other cases leads
    simp only at hid
    split at hid
    · next b hb => exact ⟨b, mapError_eq_ok_iff.1 hbranches, List.mem_of_find?_eq_some hb, hid⟩
    · cases hid

/-- **A built-in step that names the next node is a choice**, and names
the target of one of the branches of its node. -/
theorem nextNode_of_resolve?_builtIn {kind : String} {x : Executor}
    (h : Registry.builtIn.resolve? kind = some x)
    (hid : (x.execute input n).1.nextNode = some id) :
    ∃ branches b, Branch.ofConfig? input.config = .ok branches ∧ b ∈ branches ∧
      b.target = some id := by
  obtain hplain | rfl | rfl := plain_of_resolve? h
  · cases (hplain.execute input n).nextNode.symm.trans hid
  · cases (question_execute input n).1.symm.trans hid
  · cases hr : (choice.run input n).1 with
    | ok r =>
      simp only [Executor.execute, hr, Executor.conclude] at hid
      exact exists_branch_of_choice hr hid
    | error e =>
      simp only [Executor.execute, hr, Executor.conclude] at hid
      cases hid

end Step

end Flowchart
