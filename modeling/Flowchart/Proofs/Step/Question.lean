import Flowchart.Proofs.Success
import Flowchart.Step.Question

/-!
# What a question asks

A question asks for an answer, or asks again, exactly when its
configuration can be read and the answer is declined: there is none, or
it breaks a rule. The step then says the question and leaves nothing else
behind (`run_of_declined`, `of_requiresInput`).
-/

namespace Flowchart

namespace Step

namespace Question

/-- The configuration asks a question in a state, and has rules for the
answer. -/
structure Asks (config : NodeConfig) (state : StateMap) (prompt : String) (rules : NodeConfig) :
    Prop where
  text : ∃ text, config.textOr "promptText" defaultPrompt = .ok text ∧
    Template.render text state = prompt
  key : ∃ key, config.textOr "stateKey" defaultKey = .ok key
  rules : config.section? "validationRules" = .ok rules

/-- **The answer is declined.** -/
inductive Declined (rules : NodeConfig) : Option Json → Prop where
  /-- There is none. -/
  | absent : Declined rules none
  /-- It is null. -/
  | null : Declined rules (some .null)
  /-- It breaks a rule. -/
  | broken {answer : Json} {reason : String}
    (h : violation? rules answer.display = .ok (some reason)) : Declined rules (some answer)

/-- The result asks a question, for the first time or again. -/
inductive Asking (prompt : String) : Result → Prop where
  | asked : Asking prompt (.asking prompt)
  | refused (reason : String) : Asking prompt (.refused prompt reason)

variable {config rules : NodeConfig} {state : StateMap} {prompt : String} {input : Input}
variable {r : Result}

theorem Asking.requiresInput (h : Asking prompt r) : r.requiresInput = true := by
  cases h <;> rfl

theorem Asking.message (h : Asking prompt r) : r.message = some prompt := by
  cases h <;> rfl

theorem Asking.output (h : Asking prompt r) : r.output = .empty := by
  cases h <;> rfl

theorem Asking.updates (h : Asking prompt r) : r.updates = .empty := by
  cases h <;> rfl

/-- **A declined answer makes the question ask.** -/
theorem run_of_declined (h : Asks input.config input.state prompt rules)
    (hw : Declined rules input.answer) : ∃ r, run input = .ok r ∧ Asking prompt r := by
  obtain ⟨⟨text, htext, rfl⟩, ⟨key, hkey⟩, hrules⟩ := h
  unfold run
  rw [htext, hkey, hrules]
  generalize input.answer = answer at hw
  cases hw with
  | absent => exact ⟨_, rfl, .asked⟩
  | null => exact ⟨_, rfl, .asked⟩
  | @broken answer reason h =>
    cases answer with
    -- a null is no answer, whatever the rules say of it
    | null => exact ⟨_, rfl, .asked⟩
    | _ =>
      refine ⟨.refused _ reason, ?_, .refused reason⟩
      simp only [configured_ok, bind, Except.bind, h]
      rfl

/-- **A question that asks can be read**, and says what it asks. -/
theorem of_requiresInput (h : run input = .ok r) (hr : r.requiresInput = true) :
    ∃ prompt rules, Asks input.config input.state prompt rules ∧ Asking prompt r := by
  obtain ⟨text, htext, h⟩ := bind_eq_ok_iff.1 h
  obtain ⟨key, hkey, h⟩ := bind_eq_ok_iff.1 h
  obtain ⟨rules, hrules, h⟩ := bind_eq_ok_iff.1 h
  have hasks : Asks input.config input.state (Template.render text input.state) rules :=
    ⟨⟨text, mapError_eq_ok_iff.1 htext, rfl⟩, ⟨key, mapError_eq_ok_iff.1 hkey⟩,
      mapError_eq_ok_iff.1 hrules⟩
  refine ⟨_, rules, hasks, ?_⟩
  split at h
  · exact Except.ok.inj h ▸ .asked
  · exact Except.ok.inj h ▸ .asked
  · obtain ⟨reason?, -, h⟩ := bind_eq_ok_iff.1 h
    cases reason? with
    | some reason => exact Except.ok.inj h ▸ .refused reason
    | none =>
      obtain rfl := Except.ok.inj h
      cases hr

/-- **A step that does not ask has taken an answer** that breaks no rule. -/
theorem eq_taken_of_run (h : run input = .ok r) (hr : r.requiresInput = false) :
    ∃ text key rules answer, input.config.textOr "promptText" defaultPrompt = .ok text ∧
      input.config.textOr "stateKey" defaultKey = .ok key ∧
      input.config.section? "validationRules" = .ok rules ∧ input.answer = some answer ∧
      violation? rules answer.display = .ok none ∧
      r = taken (Template.render text input.state) key answer.display := by
  obtain ⟨text, htext, h⟩ := bind_eq_ok_iff.1 h
  obtain ⟨key, hkey, h⟩ := bind_eq_ok_iff.1 h
  obtain ⟨rules, hrules, h⟩ := bind_eq_ok_iff.1 h
  split at h
  · obtain rfl := Except.ok.inj h
    cases hr
  · obtain rfl := Except.ok.inj h
    cases hr
  · next answer hanswer =>
    obtain ⟨reason?, hkept, h⟩ := bind_eq_ok_iff.1 h
    obtain - | reason := reason? <;> obtain rfl := Except.ok.inj h
    · exact ⟨text, key, rules, _, mapError_eq_ok_iff.1 htext, mapError_eq_ok_iff.1 hkey,
        mapError_eq_ok_iff.1 hrules, ‹_›, hkept, rfl⟩
    · cases hr

/-- **A step that does not ask stores the text that an answer is shown
as.** -/
theorem taken_of_run (h : run input = .ok r) (hr : r.requiresInput = false) :
    ∃ key answer, input.config.textOr "stateKey" defaultKey = .ok key ∧
      input.answer = some answer ∧ r.success = true ∧
      r.updates = .ofEntries [(key, .string answer.display)] := by
  obtain ⟨text, key, rules, answer, -, hkey, -, hanswer, -, rfl⟩ := eq_taken_of_run h hr
  exact ⟨key, answer, hkey, hanswer, rfl, rfl⟩

end Question

end Step

end Flowchart
