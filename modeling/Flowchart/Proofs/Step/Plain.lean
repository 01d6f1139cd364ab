import Flowchart.Proofs.Step.BuiltIn
import Flowchart.Proofs.Step.Choice
import Flowchart.Proofs.Step.Question

/-!
# What built-in results ask of a run

Most results ask nothing of a run: they need no answer, name no way out
and do not end the flow (`Result.Plain`). Of the built-in executors only
questions need an answer (`eq_question_of_requiresInput`), only choices
name a port (`eq_choice_of_nextPort`), and none ends a flow
(`isComplete_of_resolve?`).
-/

namespace Flowchart

namespace Step

variable {input : Input} {r : Result} {n : Web.Network} {kind port : String} {x : Executor}

/-- **The result asks nothing of a run**: it needs no answer, names no
node to go on with and no port, and does not end the flow. -/
structure Result.Plain (r : Result) : Prop where
  requiresInput : r.requiresInput = false
  nextNode : r.nextNode = none
  nextPort : r.nextPort = none
  isComplete : r.isComplete = false

/-- The executor makes plain results only. -/
def Executor.Plain (x : Executor) : Prop :=
  ∀ input n r, (x.run input n).1 = .ok r → r.Plain

theorem Result.plain_failed (reason : String) : (Result.failed reason).Plain :=
  ⟨rfl, rfl, rfl, rfl⟩

/-- What an executor makes is plain, as a failure is. -/
theorem Executor.Plain.execute (h : x.Plain) (input : Input) (n : Web.Network) :
    (x.execute input n).1.Plain := by
  unfold Executor.execute conclude
  simp only
  cases hr : (x.run input n).1 with
  | ok r => exact h input n r hr
  | error e => exact Result.plain_failed _

/-! ## Executors of plain results -/

theorem plain_passThrough : passThrough.Plain := by
  rintro input n r ⟨⟩
  exact ⟨rfl, rfl, rfl, rfl⟩

theorem plain_message : message.Plain := by
  intro input n r h
  obtain ⟨text, -, h⟩ := bind_eq_ok_iff.1 h
  obtain rfl := Except.ok.inj h
  exact ⟨rfl, rfl, rfl, rfl⟩

theorem plain_assignment : assignment.Plain := by
  intro input n r h
  obtain ⟨entries, -, h⟩ := bind_eq_ok_iff.1 h
  obtain rfl := Except.ok.inj h
  exact ⟨rfl, rfl, rfl, rfl⟩

theorem plain_call : call.Plain := by
  intro input n r h
  unfold call Call.run at h
  simp only at h
  split at h
  · cases h
  · split at h
    · obtain rfl := Except.ok.inj h
      exact ⟨rfl, rfl, rfl, rfl⟩
    · cases h

theorem plain_model : model.Plain := by
  intro input n r h
  replace h := mapError_eq_ok_iff.1 h
  obtain ⟨instruction, -, h⟩ := bind_eq_ok_iff.1 h
  obtain ⟨name, -, h⟩ := bind_eq_ok_iff.1 h
  obtain ⟨inputs, -, h⟩ := bind_eq_ok_iff.1 h
  obtain ⟨context, -, h⟩ := bind_eq_ok_iff.1 h
  obtain ⟨outputs, -, h⟩ := bind_eq_ok_iff.1 h
  obtain ⟨updates, -, h⟩ := bind_eq_ok_iff.1 h
  obtain rfl := Except.ok.inj h
  exact ⟨rfl, rfl, rfl, rfl⟩

/-! ## Questions and choices -/

/-- **A question names no way out and ends no flow.** -/
theorem question_execute (input : Input) (n : Web.Network) :
    (question.execute input n).1.nextNode = none ∧ (question.execute input n).1.nextPort = none ∧
      (question.execute input n).1.isComplete = false := by
  have hresult : (question.execute input n).1 = question.conclude (Question.run input) := rfl
  rw [hresult]
  cases hrun : Question.run input with
  | error e => exact ⟨rfl, rfl, rfl⟩
  | ok r =>
    change r.nextNode = none ∧ r.nextPort = none ∧ r.isComplete = false
    cases hr : r.requiresInput with
    | true =>
      obtain ⟨prompt, rules, -, hasking⟩ := Question.of_requiresInput hrun hr
      cases hasking <;> exact ⟨rfl, rfl, rfl⟩
    | false =>
      obtain ⟨-, -, -, -, -, -, -, -, -, rfl⟩ := Question.eq_taken_of_run hrun hr
      exact ⟨rfl, rfl, rfl⟩

/-- **A choice asks for nothing and ends no flow.** -/
theorem choice_execute (input : Input) (n : Web.Network) :
    (choice.execute input n).1.requiresInput = false ∧
      (choice.execute input n).1.isComplete = false := by
  obtain ⟨branches, i, b, hbranches, htakes⟩ | ⟨reason, hfailed⟩ := Choice.takes_or_failed input n
  · have hleaves := Choice.leavesBy_of_takes (n := n) hbranches htakes
    exact ⟨hleaves.requiresInput, hleaves.isComplete⟩
  · rw [hfailed]
    exact ⟨rfl, rfl⟩

/-! ## The built-in executors -/

/-- **The built-in executors make plain results**, but for those of
questions and of choices. -/
theorem plain_of_mem_builtIn (h : (kind, x) ∈ Registry.builtIn.executors) :
    x.Plain ∨ x = question ∨ x = choice := by
  simp only [Registry.builtIn, List.mem_cons, Prod.mk.injEq, List.not_mem_nil, or_false] at h
  rcases h with ⟨-, rfl⟩ | ⟨-, rfl⟩ | ⟨-, rfl⟩ | ⟨-, rfl⟩ | ⟨-, rfl⟩ | ⟨-, rfl⟩ | ⟨-, rfl⟩ |
    ⟨-, rfl⟩ | ⟨-, rfl⟩ | ⟨-, rfl⟩
  · exact .inl plain_passThrough
  · exact .inl plain_passThrough
  · exact .inl plain_message
  · exact .inr (.inl rfl)
  · exact .inl plain_call
  · exact .inr (.inr rfl)
  · exact .inr (.inr rfl)
  · exact .inl plain_model
  · exact .inl plain_model
  · exact .inl plain_assignment

theorem plain_of_resolve? (h : Registry.builtIn.resolve? kind = some x) :
    x.Plain ∨ x = question ∨ x = choice := by
  rcases Registry.mem_of_resolve? h with h | h <;> exact plain_of_mem_builtIn h

/-- **No built-in step ends the flow** by itself. -/
theorem isComplete_of_resolve? (h : Registry.builtIn.resolve? kind = some x) (input : Input)
    (n : Web.Network) : (x.execute input n).1.isComplete = false := by
  obtain hplain | rfl | rfl := plain_of_resolve? h
  · exact (hplain.execute input n).isComplete
  · exact (question_execute input n).2.2
  · exact (choice_execute input n).2

/-- **Only questions need an answer.** -/
theorem eq_question_of_requiresInput (h : Registry.builtIn.resolve? kind = some x)
    (hr : (x.execute input n).1.requiresInput = true) : x = question := by
  obtain hplain | rfl | rfl := plain_of_resolve? h
  · cases (hplain.execute input n).requiresInput.symm.trans hr
  · rfl
  · cases (choice_execute input n).1.symm.trans hr

/-- **Only choices name a port.** -/
theorem eq_choice_of_nextPort (h : Registry.builtIn.resolve? kind = some x)
    (hp : (x.execute input n).1.nextPort = some port) : x = choice := by
  obtain hplain | rfl | rfl := plain_of_resolve? h
  · cases (hplain.execute input n).nextPort.symm.trans hp
  · cases (question_execute input n).2.1.symm.trans hp
  · rfl

end Step

end Flowchart
