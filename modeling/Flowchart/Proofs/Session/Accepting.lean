import Flowchart.Proofs.Session.Course
import Flowchart.Proofs.Step.Terms

/-!
# Answers that are taken

A question stores an answer exactly if the answer keeps all its terms,
asks again if it breaks one, and fails if it cannot be judged. So
whatever a run stores at a question keeps the terms of that question.
-/

namespace Flowchart

namespace Session

open Step.Question (Terms Reads taken answered)

variable {setting : Setting} {p : Taken}

theorem settle_failed (g : Graph) (node : Graph.Node) (reason : String) (s : Session) :
    settle g node (.failed reason) s = ended (s.fail (.stepFailed reason)) := rfl

theorem settle_refused (g : Graph) (node : Graph.Node) (prompt reason : String) (s : Session) :
    settle g node (.refused prompt reason) s = ended (s.await (some prompt) (some reason)) := rfl

/-- An answer that is taken is stored, and the run goes on or completes. -/
theorem settle_taken (g : Graph) (node : Graph.Node) (prompt key answer : String) (s : Session) :
    (settle g node (taken prompt key answer) s).1.state = s.state.insert key (.string answer) ∧
      ∀ o ∈ (settle g node (taken prompt key answer) s).2, ∃ message, o = .completed message := by
  have hset := settled_settle g node (taken prompt key answer) s
  refine ⟨hset.state, fun o ho => ?_⟩
  generalize settle g node (taken prompt key answer) s = out at hset ho
  cases hset with
  | refused hs | failed hs => cases hs
  | asked hs hi => cases hi
  | finished hs hi hc => cases hc
  | deadEnd => exact ⟨_, (Option.some.inj ho).symm⟩
  | moved => cases ho

/-- Storing one variable is a change. -/
theorem empty_ne_single (key : String) (value : Json) :
    (.empty : StateMap) ≠ StateMap.ofEntries [(key, value)] :=
  fun h => List.cons_ne_nil _ _ (congrArg SortedMap.entries h).symm

/-- **The verdict on an answer settles the step**: without an objection
the answer is stored, with one the question is asked again, and without a
verdict the run fails. -/
theorem settle_answered (g : Graph) (node : Graph.Node) (prompt key answer : String) (s : Session)
    (verdict : Except Step.Error (Option String)) :
    let r := Step.question.conclude (verdict.map (answered prompt key answer))
    let out := settle g node r s
    (r.updates = .ofEntries [(key, .string answer)] ↔ verdict = .ok none) ∧
    (verdict = .ok none → out.1.state = s.state.insert key (.string answer)) ∧
    (verdict ≠ .ok none → out.1.state = s.state ∧ out.1.current = s.current) ∧
    (∀ reason, out.2 = some (.awaitingInput (some prompt) (some reason)) ↔
      verdict = .ok (some reason)) ∧
    ((∃ failure, out.2 = some (.failed failure)) ↔ ∃ e, verdict = .error e) := by
  intro r out
  cases verdict with
  | error e =>
    have hout : out = ended (s.fail (.stepFailed _)) := settle_failed g node _ s
    clear_value out
    subst hout
    exact ⟨⟨fun h => (empty_ne_single _ _ h).elim, nofun⟩, nofun, fun _ => ⟨rfl, rfl⟩,
      fun _ => ⟨nofun, nofun⟩, fun _ => ⟨e, rfl⟩, fun _ => ⟨_, rfl⟩⟩
  | ok verdict =>
    cases verdict with
    | some reason =>
      have hout : out = ended (s.await (some prompt) (some reason)) := settle_refused ..
      clear_value out
      subst hout
      refine ⟨⟨fun h => (empty_ne_single _ _ h).elim, nofun⟩, nofun, fun _ => ⟨rfl, rfl⟩,
        fun other => ?_, nofun, nofun⟩
      simp [ended, await]
    | none =>
      obtain ⟨hstate, houtcome⟩ := settle_taken g node prompt key answer s
      refine ⟨⟨fun _ => rfl, fun _ => rfl⟩, fun _ => hstate, fun h => absurd rfl h,
        fun reason => ⟨fun h => ?_, nofun⟩, fun ⟨failure, h⟩ => ?_, nofun⟩
      · obtain ⟨message, hm⟩ := houtcome _ h
        cases hm
      · obtain ⟨message, hm⟩ := houtcome _ h
        cases hm

/-- **Whatever a step of a question stores keeps its terms.** -/
theorem Taken.Genuine.stored (h : p.Genuine setting)
    (hq : setting.registry.resolve? p.node.kind = some Step.question) :
    p.stateAfter = p.input.state ∨
      ∃ text key rules t w, Reads p.input.config text key rules t ∧ p.input.answer = some w ∧
        t.Accepts w.display ∧ p.stateAfter = p.input.state.insert key (.string w.display) := by
  obtain ⟨x, hx, hmade⟩ := h.made
  obtain rfl := Option.some.inj (hx.symm.trans hq)
  have hresult : p.result = Step.question.conclude (Step.Question.run p.input) :=
    (congrArg Prod.fst hmade).symm
  cases hrun : Step.Question.run p.input with
  | error e =>
    rw [hrun] at hresult
    exact .inl (Taken.stateAfter_of_failure (hresult ▸ rfl))
  | ok r =>
    rw [hrun] at hresult
    change p.result = r at hresult
    cases hr : r.requiresInput with
    | true =>
      obtain ⟨_, _, -, hasking⟩ := Step.Question.of_requiresInput hrun hr
      refine .inl ?_
      rw [Taken.stateAfter, hresult, hasking.updates]
      exact ite_self _
    | false =>
      obtain ⟨text, key, rules, t, w, hreads, hw, haccepts, rfl⟩ :=
        Step.Question.accepts_of_run hrun hr
      refine .inr ⟨text, key, rules, t, w, hreads, hw, haccepts, ?_⟩
      rw [Taken.stateAfter, hresult]
      rfl

/-- **Questions take what keeps their terms.** A step of a question that
is given an answer stores the text of the answer exactly if the text keeps
all the terms, and changes nothing else; it asks again with the message of
the first of the terms that the text breaks, and fails exactly if the text
cannot be judged. So what a run stores at a question keeps its terms. -/
theorem questions_take_what_keeps_their_terms (setting : Setting) :
    (∀ (node : Graph.Node) (config : NodeConfig) (s : Session) (n : Web.Network) (w : Json)
        (text key : String) (rules : NodeConfig) (t : Terms) (own : Option String),
      s.input = some w → w ≠ .null →
      Reads config text key rules t → rules.text? "patternMessage" = .ok own →
      let r := (Step.question.execute (stepInput setting node config s) n).1
      let out := (step setting node Step.question config s n).1
      let prompt := Template.render text s.state
      (r.updates = .ofEntries [(key, .string w.display)] ↔ t.Accepts w.display) ∧
      (t.Accepts w.display → out.1.state = s.state.insert key (.string w.display)) ∧
      (¬ t.Accepts w.display → out.1.state = s.state ∧ out.1.current = s.current) ∧
      (∀ reason, out.2 = some (.awaitingInput (some prompt) (some reason)) ↔
        t.FirstBroken own w.display reason) ∧
      ((∃ failure, out.2 = some (.failed failure)) ↔ t.Unreadable w.display)) ∧
    (∀ (budget : Nat) (s : Session) (n : Web.Network), ∀ p ∈ s.steps setting budget n,
      setting.registry.resolve? p.node.kind = some Step.question →
      p.stateAfter = p.input.state ∨
        ∃ text key rules t w, Reads p.input.config text key rules t ∧ p.input.answer = some w ∧
          t.Accepts w.display ∧ p.stateAfter = p.input.state.insert key (.string w.display)) := by
  refine ⟨?_, fun budget s n p hp hq => ((course_run setting budget s n).genuine p hp).stored hq⟩
  intro node config s n w text key rules t own hw hnull hreads hown r out prompt
  have hr : r = Step.question.conclude ((Step.Question.violation? rules w.display).map
      (answered prompt key w.display)) :=
    congrArg Step.question.conclude (Step.Question.run_of_answer hreads hw hnull)
  have hsettled := settle_answered setting.graph node prompt key w.display
    ({ s with input := none }.record
      (.ofResult node.id node.kind r (s.moment setting.clock).now) (s.moment setting.clock).now)
    (Step.Question.violation? rules w.display)
  rw [← hr] at hsettled
  simp only [← Step.Question.violation?_eq_none_iff hreads.terms,
    ← Step.Question.violation?_eq_some_iff hreads.terms hown,
    ← Step.Question.violation?_eq_error_iff hreads.terms hown]
  exact hsettled

/-! ## A code of digits -/

/-- The rules for the code. -/
def codeRules : NodeConfig where
  entries := [("required", .bool true), ("maxLength", .ofNat 4), ("pattern", .string "^[0-9]+$")]

/-- What the rules ask of it. -/
def codeTerms : Terms where
  required := true
  greatest := some 4
  pattern := some "^[0-9]+$"

/-- What the question for the code is configured with. -/
def codeConfig : NodeConfig where
  entries := [("promptText", .string "Code for \x7bname\x7d?"), ("stateKey", .string "code"),
    ("validationRules", .object codeRules.entries)]

/-- The question. -/
def codeNode : Graph.Node where
  workflowId := .nil
  id := "q"
  kind := "QuestionNode"
  payload :=
    "\x7b\"promptText\":\"Code for \x7bname\x7d?\",\"stateKey\":\"code\",\"validationRules\":" ++
    "\x7b\"required\":true,\"maxLength\":4,\"pattern\":\"^[0-9]+$\"\x7d\x7d"

/-- A flow of the question alone. -/
def codeSetting : Setting where
  graph := { nodes := [codeNode] }
  registry := .builtIn
  clock := default

/-- A session that has been given an answer. -/
def codeSession (answer : String) : Session :=
  { start "code" .nil "" "q" (.ofEntries [("name", .string "Ada")]) .epoch with
    input := some (.string answer) }

theorem code_reads : Reads codeConfig "Code for \x7bname\x7d?" "code" codeRules codeTerms where
  prompt := by decide +kernel
  stored := by decide +kernel
  checked := by decide +kernel
  terms := ⟨⟨some true, by decide +kernel, rfl⟩, by decide +kernel, by decide +kernel,
    by decide +kernel⟩

/-- The run is about to ask the question. -/
def codeVisit : Visit codeSetting { codeSession "042" with status := .running } where
  node := codeNode
  executor := Step.question
  config := codeConfig
  arrived := by decide +kernel
  prepared := by
    have hconfig : codeNode.config? = .ok codeConfig := by decide +kernel
    simp only [prepare, hconfig]
    rfl

/-- **Digits are taken, and letters are not.** -/
theorem code_takes_digits :
    codeTerms.Accepts "042" ∧
    codeTerms.FirstBroken none "4b" "Input does not match the required format." ∧
    (step codeSetting codeNode Step.question codeConfig (codeSession "042") {}).1.1.state =
      .ofEntries [("code", .string "042"), ("name", .string "Ada")] ∧
    (step codeSetting codeNode Step.question codeConfig (codeSession "4b") {}).1.2 =
      some (.awaitingInput (some "Code for Ada?")
        (some "Input does not match the required format.")) ∧
    ∃ p ∈ (codeSession "042").steps codeSetting 1 {}, ∃ text key rules t w,
      Reads p.input.config text key rules t ∧ p.input.answer = some w ∧ t.Accepts w.display ∧
      p.stateAfter = p.input.state.insert key (.string w.display) := by
  have hown : codeRules.text? "patternMessage" = .ok none := by decide +kernel
  have haccepts : codeTerms.Accepts "042" :=
    (Step.Question.violation?_eq_none_iff code_reads.terms).1 (by decide +kernel)
  have hbroken : codeTerms.FirstBroken none "4b" "Input does not match the required format." :=
    (Step.Question.violation?_eq_some_iff code_reads.terms hown).1 (by decide +kernel)
  obtain ⟨htakes, hstored⟩ := questions_take_what_keeps_their_terms codeSetting
  obtain ⟨-, hstate, -⟩ := htakes codeNode codeConfig (codeSession "042") {} (.string "042")
    _ _ _ _ _ rfl nofun code_reads hown
  obtain ⟨-, -, -, hasks, -⟩ := htakes codeNode codeConfig (codeSession "4b") {} (.string "4b")
    _ _ _ _ _ rfl nofun code_reads hown
  have hstep : codeVisit.taken {} ∈ (codeSession "042").steps codeSetting 1 {} := by
    rw [steps, stepsFrom, taken?_of_visit codeVisit]
    exact List.mem_cons_self
  have hchange : (codeVisit.taken {}).stateAfter ≠ (codeVisit.taken {}).input.state := by
    decide +kernel
  exact ⟨haccepts, hbroken, (hstate haccepts).trans (by decide +kernel), (hasks _).2 hbroken,
    _, hstep, (hstored 1 _ {} _ hstep rfl).resolve_left hchange⟩

end Session

end Flowchart
