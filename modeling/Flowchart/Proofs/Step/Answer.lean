import Flowchart.Proofs.Step.BuiltIn
import Flowchart.Proofs.Step.Question

/-!
# Who reads the answer

Of the built-in executors only that of questions reads the answer that a
step is given (`deaf_or_eq_question`), and it reads no more of it than
its text (`run_of_display`). Without an answer no built-in step puts one
out (`output_of_resolve?_builtIn`), and a question asks or cannot be read
(`run_of_absent`).
-/

namespace Flowchart

namespace Step

/-- **The executor does not read the answer.** -/
def Executor.Deaf (x : Executor) : Prop :=
  ∀ (input : Input) (answer : Option Json) n, x.run { input with answer } n = x.run input n

/-- **Without an answer the executor puts none out.** -/
def Executor.Discreet (x : Executor) : Prop :=
  ∀ input n r, input.answer = none → (x.run input n).1 = .ok r →
    r.output.find? "answer" = none

variable {input : Input} {r : Result} {n : Web.Network} {x : Executor} {kind : String}

/-- A deaf executor concludes the same whatever the answer is. -/
theorem Executor.Deaf.execute (h : x.Deaf) (input : Input) (answer : Option Json)
    (n : Web.Network) : x.execute { input with answer } n = x.execute input n := by
  simp only [Executor.execute, h input answer n]

/-- A failed result puts nothing out, so no result puts an answer out. -/
theorem Executor.Discreet.output (h : x.Discreet) (ha : input.answer = none) :
    (x.execute input n).1.output.find? "answer" = none := by
  unfold execute conclude
  simp only
  cases hr : (x.run input n).1 with
  | ok r => exact h input n r ha hr
  | error e => rfl

/-! ## Executors but that of questions -/

/-- An output that is put together from other keys has no answer. -/
theorem output_of_keys {es : Json.Entries} (h : "answer" ∉ es.map (·.1)) :
    (StateMap.ofEntries es).find? "answer" = none :=
  SortedMap.find?_ofList_eq_none fun _ he hkey => h (hkey ▸ List.mem_map_of_mem he)

theorem discreet_passThrough : passThrough.Discreet := by
  rintro input n r - ⟨⟩
  rfl

theorem discreet_message : message.Discreet := by
  intro input n r _ h
  obtain ⟨text, -, h⟩ := bind_eq_ok_iff.1 h
  obtain rfl := Except.ok.inj h
  exact output_of_keys (by simp)

theorem discreet_assignment : assignment.Discreet := by
  intro input n r _ h
  obtain ⟨entries, -, h⟩ := bind_eq_ok_iff.1 h
  obtain rfl := Except.ok.inj h
  exact output_of_keys (by simp)

theorem discreet_call : call.Discreet := by
  intro input n r _ h
  unfold call Call.run at h
  simp only at h
  split at h
  · cases h
  · split at h
    · obtain rfl := Except.ok.inj h
      exact output_of_keys (by simp)
    · cases h

theorem discreet_model : model.Discreet := by
  intro input n r _ h
  replace h := mapError_eq_ok_iff.1 h
  obtain ⟨instruction, -, h⟩ := bind_eq_ok_iff.1 h
  obtain ⟨name, -, h⟩ := bind_eq_ok_iff.1 h
  obtain ⟨inputs, -, h⟩ := bind_eq_ok_iff.1 h
  obtain ⟨context, -, h⟩ := bind_eq_ok_iff.1 h
  obtain ⟨outputs, -, h⟩ := bind_eq_ok_iff.1 h
  obtain ⟨updates, -, h⟩ := bind_eq_ok_iff.1 h
  obtain rfl := Except.ok.inj h
  exact output_of_keys (by simp)

theorem discreet_choice : choice.Discreet := by
  intro input n r _ h
  obtain ⟨branches, -, h⟩ := bind_eq_ok_iff.1 h
  obtain ⟨taken?, -, rfl⟩ := map_eq_ok_iff.1 (mapError_eq_ok_iff.1 h)
  cases taken? with
  | some b => exact output_of_keys (by simp)
  | none =>
    simp only
    split
    · exact output_of_keys (by simp)
    · rfl

/-! ## Questions -/

namespace Question

/-- **Without an answer a question asks**, if its configuration can be
read, and else it fails for that. -/
theorem run_of_absent (h : input.answer = none) :
    (∃ prompt rules, Asks input.config input.state prompt rules ∧
      run input = .ok (.asking prompt)) ∨
    (¬ ∃ prompt rules, Asks input.config input.state prompt rules) ∧
      ∃ e, run input = .error (.config e) := by
  unfold run
  cases htext : input.config.textOr "promptText" defaultPrompt with
  | error e =>
    refine .inr ⟨fun ⟨prompt, rules, hasks⟩ => ?_, e, rfl⟩
    obtain ⟨text, htext', -⟩ := hasks.text
    cases htext.symm.trans htext'
  | ok text =>
    cases hkey : input.config.textOr "stateKey" defaultKey with
    | error e =>
      refine .inr ⟨fun ⟨prompt, rules, hasks⟩ => ?_, e, rfl⟩
      obtain ⟨key, hkey'⟩ := hasks.key
      cases hkey.symm.trans hkey'
    | ok key =>
      cases hrules : input.config.section? "validationRules" with
      | error e =>
        refine .inr ⟨fun ⟨prompt, rules, hasks⟩ => ?_, e, rfl⟩
        cases hrules.symm.trans hasks.rules
      | ok rules =>
        refine .inl ⟨_, rules, ⟨⟨text, htext, rfl⟩, ⟨key, hkey⟩, hrules⟩, ?_⟩
        rw [h]
        rfl

/-- A null is no answer. -/
theorem run_of_null (input : Input) :
    run { input with answer := some .null } = run { input with answer := none } := rfl

/-- **Of an answer a question reads the text.** -/
theorem run_of_display {v w : Json} (hv : v ≠ .null) (hw : w ≠ .null)
    (h : v.display = w.display) (input : Input) :
    run { input with answer := some v } = run { input with answer := some w } := by
  unfold run
  cases v with
  | null => exact absurd rfl hv
  | bool | number | string | array | object =>
    cases w with
    | null => exact absurd rfl hw
    | bool | number | string | array | object => simp only [h]

end Question

theorem discreet_question : question.Discreet := by
  intro input n r ha h
  obtain ⟨prompt, rules, -, hrun⟩ | ⟨-, e, hrun⟩ := Question.run_of_absent ha
  · obtain rfl := Except.ok.inj (hrun.symm.trans h)
    rfl
  · cases hrun.symm.trans h

/-! ## The registry -/

/-- **The built-in executors are deaf, but for that of questions.** -/
theorem deaf_or_eq_question (h : (kind, x) ∈ Registry.builtIn.executors) :
    x.Deaf ∨ kind = "QuestionNode" := by
  simp only [Registry.builtIn, List.mem_cons, Prod.mk.injEq, List.not_mem_nil, or_false] at h
  rcases h with ⟨-, rfl⟩ | ⟨-, rfl⟩ | ⟨-, rfl⟩ | ⟨hk, -⟩ | ⟨-, rfl⟩ | ⟨-, rfl⟩ | ⟨-, rfl⟩ |
    ⟨-, rfl⟩ | ⟨-, rfl⟩ | ⟨-, rfl⟩
  case inr.inr.inr.inl => exact .inr hk
  -- the others are made of the configuration, the state and the stamp
  all_goals exact .inl fun _ _ _ => rfl

theorem deaf_of_resolve?_builtIn (h : Registry.builtIn.resolve? kind = some x)
    (hk : kind ≠ "QuestionNode") : x.Deaf := by
  rcases Registry.mem_of_resolve? h with h | h
  · exact (deaf_or_eq_question h).resolve_right hk
  · exact (deaf_or_eq_question h).resolve_right (by decide)

theorem discreet_of_mem_builtIn (h : (kind, x) ∈ Registry.builtIn.executors) : x.Discreet := by
  simp only [Registry.builtIn, List.mem_cons, Prod.mk.injEq, List.not_mem_nil, or_false] at h
  rcases h with ⟨-, rfl⟩ | ⟨-, rfl⟩ | ⟨-, rfl⟩ | ⟨-, rfl⟩ | ⟨-, rfl⟩ | ⟨-, rfl⟩ | ⟨-, rfl⟩ |
    ⟨-, rfl⟩ | ⟨-, rfl⟩ | ⟨-, rfl⟩
  · exact discreet_passThrough
  · exact discreet_passThrough
  · exact discreet_message
  · exact discreet_question
  · exact discreet_call
  · exact discreet_choice
  · exact discreet_choice
  · exact discreet_model
  · exact discreet_model
  · exact discreet_assignment

/-- **Without an answer a built-in step puts none out.** -/
theorem output_of_resolve?_builtIn (h : Registry.builtIn.resolve? kind = some x)
    (ha : input.answer = none) : (x.execute input n).1.output.find? "answer" = none := by
  have hx : x.Discreet := by
    rcases Registry.mem_of_resolve? h with h | h <;> exact discreet_of_mem_builtIn h
  exact hx.output ha

end Step

end Flowchart
