import Flowchart.Proofs.Session.Asking
import Flowchart.Proofs.Step.Answer

/-!
# One answer reaches one step

The answer that a session is given is used up by the first step of the
run, and only a question reads it (`runFrom_of_answer`). So away from a
question a run does not depend on the answer, at a question it depends
on its text alone, and every later question finds none
(`answer_reaches_one_step`).
-/

namespace Flowchart

namespace Session

open Step.Question (Asks)

variable {setting : Setting} {s : Session} {n : Web.Network} {budget left : Nat}
variable {g : Graph} {clock : Clock} {ps : List Taken} {run : Run} {p q : Taken}

/-! ## Two answers -/

/-- A session that ends where it stands loses its answer. -/
theorem arrive_of_answer (g : Graph) (s : Session) (answer : Option Json) :
    arrive g { s with input := answer } = arrive g s := by
  unfold arrive
  cases g.node? s.current <;> rfl

/-- **A turn whose step does not see the difference between two answers**
is the same with both: the answer is used up, whatever it was. -/
theorem turn_of_answer {answer : Option Json}
    (h : ∀ (v : Visit setting s) n,
      v.executor.execute { v.input with answer } n = v.executor.execute v.input n) :
    turn setting { s with input := answer } n = turn setting s n := by
  cases ha : arrive setting.graph s with
  | error e => rw [turn, turn, arrive_of_answer, ha]
  | ok node =>
    cases hp : prepare setting.registry node with
    | error reason =>
      rw [turn, turn, arrive_of_answer, ha]
      simp only [hp]
      rfl
    | ok prepared =>
      let v : Visit setting s := ⟨node, prepared.1, prepared.2, ha, hp⟩
      let w : Visit setting { s with input := answer } :=
        ⟨node, prepared.1, prepared.2, (arrive_of_answer ..).trans ha, hp⟩
      have hexecute : w.executor.execute w.input n = v.executor.execute v.input n := h v n
      have hresult : w.result n = v.result n := congrArg Prod.fst hexecute
      have hnetwork : w.network n = v.network n := congrArg Prod.snd hexecute
      have hsettled : w.settled n = v.settled n := by
        change settle setting.graph node (w.result n) _ = settle setting.graph node (v.result n) _
        rw [Visit.recorded, Visit.entry, hresult]
        rfl
      rw [turn_of_visit w, turn_of_visit v, hsettled, hnetwork]

theorem runFrom_of_answer {answer : Option Json}
    (h : ∀ (v : Visit setting s) n,
      v.executor.execute { v.input with answer } n = v.executor.execute v.input n) :
    runFrom setting budget left { s with input := answer } n = runFrom setting budget left s n := by
  cases left with
  | zero =>
    have harrive := arrive_of_answer setting.graph s answer
    cases ha : arrive setting.graph s with
    | error e => rw [runFrom_of_arrive_error ha, runFrom_of_arrive_error (harrive.trans ha)]
    | ok node =>
      rw [runFrom_zero ha, runFrom_zero (harrive.trans ha)]
      rfl
  | succ left => rw [runFrom_succ, runFrom_succ, turn_of_answer h]

/-- The executor of a visit sees no difference between two answers, unless
the node asks a question and the question sees one. -/
theorem Visit.execute_of_answer (v : Visit setting s) (hregistry : setting.registry = .builtIn)
    {answer : Option Json} (h : v.node.kind = questionKind →
      Step.Question.run { v.input with answer } = Step.Question.run v.input)
    (n : Web.Network) :
    v.executor.execute { v.input with answer } n = v.executor.execute v.input n := by
  have hresolve := (prepare_ok v.prepared).1
  rw [hregistry] at hresolve
  by_cases hkind : v.node.kind = questionKind
  · rw [hkind] at hresolve
    have hexecutor : v.executor = Step.question := (Option.some.inj hresolve).symm
    rw [hexecutor]
    exact congrArg (fun r => (Step.question.conclude r, n)) (h hkind)
  · exact (Step.deaf_of_resolve?_builtIn hresolve hkind).execute v.input answer n

/-- **Two answers are the same to a run**, unless the session stands on a
question that sees a difference. -/
theorem reply_congr {a b : Option Json} (h : ∀ node, g.node? s.current = some node →
      node.kind = questionKind → ∀ input : Step.Input,
        Step.Question.run { input with answer := a } = Step.Question.run { input with answer := b })
    (budget : Nat) (n : Web.Network) (clock : Clock) :
    reply g budget s n a clock = reply g budget s n b clock := by
  refine runFrom_of_answer (s := { s with input := b, status := .running }) fun v m => ?_
  exact v.execute_of_answer rfl
    (fun hkind => h v.node (arrive_ok v.arrived).1 hkind v.input) m

/-! ## Later steps -/

/-- **Only the first step of a run sees an answer.** -/
theorem answer_of_follows (h : (q :: ps).IsChain (Taken.Follows g)) :
    ∀ p ∈ ps, p.input.answer = none := by
  induction ps generalizing q with
  | nil => exact fun p hp => absurd hp List.not_mem_nil
  | cons p ps ih =>
    obtain ⟨hfollows, hrest⟩ := List.isChain_cons_cons.1 h
    exact List.forall_mem_cons.2 ⟨hfollows.answer, ih hrest⟩

/-- **A step that does not go on ends the run.** -/
theorem Course.ends (h : Course setting budget s n ps run) (hp : p ∈ ps) (hgo : ¬ p.GoesOn) :
    p.Ends setting.graph run.outcome ∧ run.session.current = p.node.id := by
  induction h with
  | halted h => exact absurd hp List.not_mem_nil
  | ended v h =>
    obtain rfl := List.mem_singleton.1 hp
    exact ⟨h, (closed_current ..).trans (v.opens _).current.symm⟩
  | moved v hon hto rest ih =>
    rcases List.mem_cons.1 hp with rfl | hp
    · exact absurd hon hgo
    · exact ih hp

/-- **A question that finds no answer ends the run**: it pauses there, or
fails because its configuration cannot be read. -/
theorem Course.ends_of_unanswered (h : Course setting budget s n ps run)
    (hregistry : setting.registry = .builtIn) (hp : p ∈ ps) (hkind : p.node.kind = questionKind)
    (hanswer : p.input.answer = none) :
    run.session.current = p.node.id ∧
    ((∃ prompt rules, run.outcome = .awaitingInput (some prompt) none ∧
        PausedAt setting.graph run.session prompt rules) ∨
      (¬ ∃ prompt rules, Asks p.input.config p.input.state prompt rules) ∧
        ∃ e : NodeConfig.Error,
          run.outcome =
            .failed (.stepFailed ("Question node execution failed: " ++ e.message))) := by
  obtain ⟨hfound, -, -, -, -, x, hx, hmade⟩ := h.genuine p hp
  rw [hregistry, hkind] at hx
  obtain rfl : Step.question = x := Option.some.inj hx
  have hresult : Step.question.conclude (Step.Question.run p.input) = p.result :=
    congrArg Prod.fst hmade
  obtain ⟨prompt, rules, -, hrun⟩ | ⟨hasks, e, hrun⟩ := Step.Question.run_of_absent hanswer
  · have hasking : p.result = .asking prompt := by rw [← hresult, hrun]; rfl
    have hrequires : p.result.requiresInput = true := by rw [hasking]; rfl
    obtain ⟨hends, hcurrent⟩ := h.ends hp fun hgo => by cases hgo.2.1.symm.trans hrequires
    have ho : run.outcome = .awaitingInput (some prompt) none := by
      rw [hends.of_requiresInput hrequires, hasking]
      rfl
    obtain ⟨_, rules', hprompt, hpaused⟩ := h.pausedAt hregistry ho (hcurrent ▸ hfound) hkind
    obtain rfl := Option.some.inj hprompt
    exact ⟨hcurrent, .inl ⟨prompt, rules', ho, hpaused⟩⟩
  · have hfailed : p.result = .failed ("Question node execution failed: " ++ e.message) := by
      rw [← hresult, hrun]
      rfl
    have hsuccess : p.result.success = false := by rw [hfailed]; rfl
    obtain ⟨hends, hcurrent⟩ := h.ends hp fun hgo => by cases hgo.1.symm.trans hsuccess
    refine ⟨hcurrent, .inr ⟨hasks, e, ?_⟩⟩
    rw [hends.of_failure hsuccess (by rw [hfailed]; rfl), hfailed]
    rfl

/-! ## The main statement -/

/-- **One answer reaches one step.** A run from a session that stands on
no question does not depend on the answer that the session is given; from
every session it depends on the text of the answer alone, and a null is
as no answer. Only the first step that a run records may put an answer
out. A question that the run executes later finds none: it pauses the run
there, or it fails because its configuration cannot be read. -/
theorem answer_reaches_one_step (g : Graph) (clock : Clock) (budget : Nat) (s : Session)
    (n : Web.Network) :
    ((∀ node, g.node? s.current = some node → node.kind ≠ questionKind) → ∀ a b,
      reply g budget s n a clock = reply g budget s n b clock) ∧
    (∀ v w : Json, v ≠ .null → w ≠ .null → v.display = w.display →
      reply g budget s n (some v) clock = reply g budget s n (some w) clock) ∧
    reply g budget s n (some .null) clock = reply g budget s n none clock ∧
    ∀ answer,
      let steps := ({ s with input := answer } : Session).steps ⟨g, .builtIn, clock⟩ budget n
      let r := reply g budget s n answer clock
      r.session.history = s.history ++ steps.map (·.entry clock) ∧
      (∀ entry ∈ (steps.map (·.entry clock)).tail, entry.output.find? "answer" = none) ∧
      ∀ p ∈ steps.tail, p.node.kind = questionKind →
        r.session.current = p.node.id ∧
        ((∃ prompt rules, r.outcome = .awaitingInput (some prompt) none ∧
            PausedAt g r.session prompt rules) ∨
          (¬ ∃ prompt rules, Asks p.input.config p.input.state prompt rules) ∧
            ∃ e : NodeConfig.Error, r.outcome =
              .failed (.stepFailed ("Question node execution failed: " ++ e.message))) := by
  refine ⟨fun h a b => reply_congr (fun node hn hk => absurd hk (h node hn)) budget n clock,
    fun v w hv hw h =>
      reply_congr (fun _ _ _ => Step.Question.run_of_display hv hw h) budget n clock,
    reply_congr (fun _ _ _ => Step.Question.run_of_null) budget n clock, fun answer => ?_⟩
  intro steps r
  have course : Course ⟨g, .builtIn, clock⟩ budget { s with input := answer, status := .running } n
      steps r := course_run ⟨g, .builtIn, clock⟩ budget { s with input := answer } n
  have later : ∀ p ∈ steps.tail, p ∈ steps ∧ p.input.answer = none := by
    have hfollows := course.follows
    cases hsteps : steps with
    | nil => exact fun p hp => absurd hp List.not_mem_nil
    | cons q ps =>
      rw [hsteps] at hfollows
      exact fun p hp => ⟨List.mem_cons_of_mem q hp, answer_of_follows hfollows p hp⟩
  refine ⟨course.history, fun entry hentry => ?_, fun p hp hkind => ?_⟩
  · rw [← List.map_tail] at hentry
    obtain ⟨p, hp, rfl⟩ := List.mem_map.1 hentry
    obtain ⟨hmem, hanswer⟩ := later p hp
    obtain ⟨x, hx, hmade⟩ := (course.genuine p hmem).made
    have hresult : (x.execute p.input p.before).1 = p.result := congrArg Prod.fst hmade
    change p.result.output.find? "answer" = none
    rw [← hresult]
    exact Step.output_of_resolve?_builtIn hx hanswer
  · obtain ⟨hmem, hanswer⟩ := later p hp
    exact course.ends_of_unanswered rfl hmem hkind hanswer

/-! ## Two questions -/

/-- A start, two questions, and an end. What the second question says of
where its answer goes is left open. -/
def twiceGraph (secondKey : String) : Graph where
  nodes := [
    { workflowId := .nil, id := "s", kind := "StartNode" },
    { workflowId := .nil, id := "q", kind := questionKind, payload :=
      "\x7b\"promptText\":\"Name?\",\"stateKey\":\"name\"\x7d" },
    { workflowId := .nil, id := "r", kind := questionKind, payload :=
      "\x7b\"promptText\":\"Age?\",\"stateKey\":" ++ secondKey ++ "\x7d" },
    { workflowId := .nil, id := "e", kind := "EndNode" }]
  edges := [
    { workflowId := .nil, id := .nil, source := "s", target := "q" },
    { workflowId := .nil, id := .nil, source := "q", target := "r" },
    { workflowId := .nil, id := .nil, source := "r", target := "e" }]

/-- A session that stands on one of the nodes. -/
def twiceSession (node : String) : Session :=
  start "twice" .nil "" node .empty .epoch

/-- **The age is asked for**: the answer 5 to the first question, as a
number or as a text, is not one to the second. From the start no answer
reaches a question at all. -/
theorem twice_answer_reaches_one_step :
    let g := twiceGraph "\"age\""
    let asked := reply g 9 (twiceSession "q") {} (some (.string "5")) namingClock
    (reply g 9 (twiceSession "s") {} (some (.string "5")) namingClock =
      reply g 9 (twiceSession "s") {} none namingClock) ∧
    reply g 9 (twiceSession "q") {} (some (.number (.int 5))) namingClock = asked ∧
    asked.outcome = .awaitingInput (some "Age?") none ∧ asked.session.current = "r" ∧
    ∃ prompt rules, PausedAt g asked.session prompt rules := by
  intro g asked
  have houtcome : asked.outcome = .awaitingInput (some "Age?") none := by decide +kernel
  obtain ⟨haway, -⟩ := answer_reaches_one_step g namingClock 9 (twiceSession "s") {}
  obtain ⟨-, htext, -, hlater⟩ := answer_reaches_one_step g namingClock 9 (twiceSession "q") {}
  obtain ⟨-, -, hquestion⟩ := hlater (some (.string "5"))
  obtain ⟨p, hp, hkind⟩ : ∃ p ∈ (({ twiceSession "q" with input := some (.string "5") } :
      Session).steps ⟨g, .builtIn, namingClock⟩ 9 {}).tail, p.node.kind = questionKind := by
    have hkinds : questionKind ∈ (({ twiceSession "q" with input := some (.string "5") } :
        Session).steps ⟨g, .builtIn, namingClock⟩ 9 {}).tail.map (·.node.kind) := by
      decide +kernel
    exact List.mem_map.1 hkinds
  have hstart : ∀ node, g.node? (twiceSession "s").current = some node →
      node.kind ≠ questionKind := by
    intro node hn
    have hkind : node.kind = "StartNode" :=
      eq_of_map_eq_some (f := (·.kind)) hn (by decide +kernel)
    rw [hkind]
    decide
  have htext' := htext (.string "5") (.number (.int 5)) nofun nofun (by decide +kernel)
  refine ⟨haway hstart _ _, htext'.symm, houtcome, by decide +kernel, ?_⟩
  obtain ⟨-, ⟨prompt, rules, -, hpaused⟩ | ⟨-, e, hfailed⟩⟩ := hquestion p hp hkind
  · exact ⟨prompt, rules, hpaused⟩
  · cases houtcome.symm.trans hfailed

/-- **A later question need not pause**: one whose key is no text fails
the run, whatever answer the first question took. -/
theorem later_question_need_not_pause :
    (∃ p ∈ (({ twiceSession "q" with input := some (.string "x") } :
        Session).steps ⟨twiceGraph "5", .builtIn, namingClock⟩ 9 {}).tail.map (·.node),
      p.kind = questionKind) ∧
    ∀ prompt error, (reply (twiceGraph "5") 9 (twiceSession "q") {} (some (.string "x"))
      namingClock).outcome ≠ .awaitingInput prompt error := by
  have houtcome : (reply (twiceGraph "5") 9 (twiceSession "q") {} (some (.string "x"))
      namingClock).outcome = .failed (.stepFailed ("Question node execution failed: " ++
        NodeConfig.Error.message (.wrongType "stateKey" .text .number))) := by decide +kernel
  refine ⟨by decide +kernel, fun prompt error h => ?_⟩
  cases houtcome.symm.trans h

end Session

end Flowchart
