import Flowchart.Proofs.Graph.Shape
import Flowchart.Proofs.Session.Asking
import Flowchart.Proofs.Step.Plain

/-!
# Pending prompts

A session is called again and again, in any graph. A call that waits
leaves the prompt of the question that the session is paused at, and one
that completes the session leaves none. A call that fails leaves the
prompt alone, unless one of its steps has gone on (`prompt_of_failed`):
a session that is called at a question and fails there keeps the prompt
of the question (`prompts_of_calls`).
-/

namespace Flowchart

namespace Session

/-- A call that runs a session: the graph that it is run in, with how many
steps, with what answer and when. -/
structure Calling where
  graph : Graph
  budget : Nat
  answer : Option Json := none
  clock : Clock := default

namespace Calling

/-- What the call makes of a session and the outside. -/
def run (c : Calling) (p : Session × Web.Network) : Run :=
  reply c.graph c.budget p.1 p.2 c.answer c.clock

/-- The steps that the call takes. -/
def steps (c : Calling) (p : Session × Web.Network) : List Taken :=
  { p.1 with input := c.answer }.steps ⟨c.graph, .builtIn, c.clock⟩ c.budget p.2

/-- What some calls make of a session and the outside, one after another. -/
def runAll (cs : List Calling) (p : Session × Web.Network) : Session × Web.Network :=
  cs.foldl (fun p c => ((c.run p).session, (c.run p).network)) p

/-- **The call fails where the session stands**: it fails before a step
has gone on. -/
def FailsInPlace (c : Calling) (p : Session × Web.Network) : Prop :=
  (c.run p).session.status = .failed ∧ ∀ q ∈ c.steps p, ¬ q.GoesOn

end Calling

/-- **The prompt of the session means a question**: if there is one, the
session is paused at a question that asks it. -/
def PromptMeansQuestion (g : Graph) (s : Session) : Prop :=
  ∀ prompt, s.prompt = some prompt → ∃ rules, PausedAt g s prompt rules

/-- **The prompt was asked by a question**: one of some calls has paused at
it, and all the later ones have failed in place. -/
inductive AskedBy (p : Session × Web.Network) : List Calling → String → Prop where
  /-- The last call has paused at the question. -/
  | asked {cs : List Calling} {c : Calling} {prompt : String} {rules : NodeConfig}
    (h : PausedAt c.graph (c.run (Calling.runAll cs p)).session prompt rules) :
    AskedBy p (cs ++ [c]) prompt
  /-- It was asked before, and the last call has failed in place. -/
  | kept {cs : List Calling} {c : Calling} {prompt : String} (h : AskedBy p cs prompt)
    (hplace : c.FailsInPlace (Calling.runAll cs p)) : AskedBy p (cs ++ [c]) prompt

variable {setting : Setting} {s : Session} {n : Web.Network} {budget : Nat}
variable {ps : List Taken} {run : Run} {reason : Failure} {said error : Option String}
variable {c : Calling} {cs : List Calling} {p : Session × Web.Network} {prompt : String}

/-! ## One run -/

/-- **A run that waits leaves the session paused at a question**, the one
that its last step has asked. -/
theorem Course.paused (h : Course setting budget s n ps run)
    (hregistry : setting.registry = .builtIn) (ho : run.outcome = .awaitingInput said error) :
    ∃ prompt rules, PausedAt setting.graph run.session prompt rules := by
  obtain ⟨p, hp, hends, hcurrent⟩ | ⟨hhalts, -⟩ := h.end_cases
  · have hgenuine := h.genuine p (List.mem_of_getLast? hp)
    obtain ⟨x, hx, hmade⟩ := hgenuine.made
    have hresult : (x.execute p.input p.before).1 = p.result := congrArg Prod.fst hmade
    have hr : p.result.requiresInput = true := by
      rw [ho] at hends
      cases hends with
      | paused hr => exact hr
    rw [hregistry] at hx
    obtain rfl := Step.eq_question_of_requiresInput hx (hresult ▸ hr)
    obtain ⟨prompt, rules, -, hpaused⟩ := h.pausedAt hregistry ho (hcurrent ▸ hgenuine.found)
      (Step.resolve?_builtIn_eq_question_iff.1 hx)
    exact ⟨prompt, rules, hpaused⟩
  · exact absurd ho hhalts.not_awaitingInput

/-- **A run that fails before a step has gone on** leaves the prompt
alone. -/
theorem Course.prompt_of_failed (h : Course setting budget s n ps run)
    (ho : run.outcome = .failed reason) (hstays : ∀ q ∈ ps, ¬ q.GoesOn) :
    run.session.prompt = s.prompt := by
  cases h with
  | halted h =>
    obtain rfl : _ = Outcome.failed reason := ho
    rfl
  | ended v h =>
    obtain rfl : _ = Outcome.failed reason := ho
    rfl
  | moved v hgo => exact absurd hgo (hstays _ List.mem_cons_self)

/-- A step that fails the run has not gone on. -/
theorem Taken.Ends.not_goesOn {g : Graph} {q : Taken} (h : q.Ends g (.failed reason)) :
    ¬ q.GoesOn := by
  cases h with
  | failed hs => exact fun hgo => by cases hs.symm.trans hgo.1

/-- **A run that fails after a step has gone on** leaves no prompt: the
step has taken it away, and no later one has asked. -/
theorem Course.prompt_of_failed_later (h : Course setting budget s n ps run)
    (ho : run.outcome = .failed reason) (hgo : s.prompt = none ∨ ∃ q ∈ ps, q.GoesOn) :
    run.session.prompt = none := by
  induction h with
  | halted h =>
    obtain rfl : _ = Outcome.failed reason := ho
    exact hgo.resolve_right (by simp)
  | ended v h =>
    obtain rfl : _ = Outcome.failed reason := ho
    exact hgo.resolve_right (by simpa using h.not_goesOn)
  | moved v hgo hto rest ih => exact ih ho (.inl rfl)

/-! ## One call -/

theorem Calling.course (c : Calling) (p : Session × Web.Network) :
    Course ⟨c.graph, .builtIn, c.clock⟩ c.budget
      { p.1 with input := c.answer, status := .running } p.2 (c.steps p) (c.run p) :=
  course_run ⟨c.graph, .builtIn, c.clock⟩ c.budget { p.1 with input := c.answer } p.2

/-- The outcome of a call is the one that its session has the status of. -/
theorem Calling.status_run (c : Calling) (p : Session × Web.Network) :
    (c.run p).session.status = (c.run p).outcome.status :=
  (c.course p).status

/-- A call that waits leaves the session paused at a question. -/
theorem Calling.paused (h : (c.run p).session.status = .awaitingInput) :
    ∃ prompt rules, PausedAt c.graph (c.run p).session prompt rules := by
  rw [c.status_run p] at h
  cases ho : (c.run p).outcome with
  | awaitingInput said error => exact (c.course p).paused rfl ho
  | _ => rw [ho] at h; cases h

/-- A call that completes the session leaves no prompt. -/
theorem Calling.prompt_of_completed (h : (c.run p).session.status = .completed) :
    (c.run p).session.prompt = none := by
  rw [c.status_run p] at h
  cases ho : (c.run p).outcome with
  | completed message => exact (c.course p).prompt_of_completed ho
  | _ => rw [ho] at h; cases h

/-- A call that fails in place leaves the prompt alone. -/
theorem Calling.prompt_of_failsInPlace (h : c.FailsInPlace p) :
    (c.run p).session.prompt = p.1.prompt := by
  obtain ⟨hstatus, hstays⟩ := h
  rw [c.status_run p] at hstatus
  cases ho : (c.run p).outcome with
  | failed reason => exact (c.course p).prompt_of_failed ho hstays
  | _ => rw [ho] at hstatus; cases hstatus

/-- **A call that has a step go on and fails** leaves no prompt. -/
theorem Calling.prompt_of_failed (h : (c.run p).session.status = .failed)
    (hmoves : ¬ c.FailsInPlace p) : (c.run p).session.prompt = none := by
  have hgo : ∃ q ∈ c.steps p, q.GoesOn := by
    by_contra hnone
    exact hmoves ⟨h, fun q hq hgo => hnone ⟨q, hq, hgo⟩⟩
  rw [c.status_run p] at h
  cases ho : (c.run p).outcome with
  | failed reason => exact (c.course p).prompt_of_failed_later ho (.inr hgo)
  | _ => rw [ho] at h; cases h

/-- **The prompt after a call** is that of the question at which it waits,
or the one before it if it fails in place. -/
theorem Calling.paused_or_failsInPlace (h : (c.run p).session.prompt = some prompt) :
    (∃ rules, PausedAt c.graph (c.run p).session prompt rules) ∨
      c.FailsInPlace p ∧ p.1.prompt = some prompt := by
  have hstatus := c.status_run p
  cases ho : (c.run p).outcome with
  | awaitingInput said error =>
    rw [ho] at hstatus
    obtain ⟨asked, rules, hpaused⟩ := Calling.paused hstatus
    obtain rfl := Option.some.inj (hpaused.prompted.symm.trans h)
    exact .inl ⟨rules, hpaused⟩
  | completed message =>
    rw [ho] at hstatus
    cases (Calling.prompt_of_completed hstatus).symm.trans h
  | failed reason =>
    rw [ho] at hstatus
    by_cases hplace : c.FailsInPlace p
    · exact .inr ⟨hplace, (Calling.prompt_of_failsInPlace hplace).symm.trans h⟩
    · cases (Calling.prompt_of_failed hstatus hplace).symm.trans h

/-- **After a call a prompt means a question**, unless the call has failed
in place while there was a prompt. -/
theorem Calling.promptMeansQuestion_iff (c : Calling) (p : Session × Web.Network) :
    PromptMeansQuestion c.graph (c.run p).session ↔ ¬ (c.FailsInPlace p ∧ p.1.prompt ≠ none) := by
  constructor
  · rintro h ⟨hplace, hprompt⟩
    obtain ⟨prompt, hsome⟩ := Option.ne_none_iff_exists'.1 hprompt
    obtain ⟨rules, hpaused⟩ := h prompt ((Calling.prompt_of_failsInPlace hplace).trans hsome)
    cases hpaused.status.symm.trans hplace.1
  · intro h prompt hprompt
    obtain hpaused | ⟨hplace, hsome⟩ := Calling.paused_or_failsInPlace hprompt
    · exact hpaused
    · exact absurd ⟨hplace, by simp [hsome]⟩ h

/-! ## Many calls -/

theorem Calling.runAll_concat (cs : List Calling) (c : Calling) (p : Session × Web.Network) :
    runAll (cs ++ [c]) p =
      ((c.run (runAll cs p)).session, (c.run (runAll cs p)).network) := by
  rw [runAll, List.foldl_append]
  rfl

/-- **A prompt was asked by a question**, if there was none before the
calls. The induction is on the calls from behind. -/
theorem askedBy_of_prompt (hnone : p.1.prompt = none)
    (h : (Calling.runAll cs p).1.prompt = some prompt) : AskedBy p cs prompt := by
  induction cs using List.reverseRecOn with
  | nil => cases hnone.symm.trans h
  | append_singleton cs c ih =>
    rw [Calling.runAll_concat] at h
    obtain ⟨rules, hpaused⟩ | ⟨hplace, hsome⟩ := Calling.paused_or_failsInPlace h
    · exact .asked hpaused
    · exact .kept (ih hsome) hplace

/-- **What the prompt of a session means.** Let a new session be called any
number of times, each time in any graph, with any answer, number of steps
and outside, and once more. If it waits then, it is paused at a question
and has its prompt; if it is completed, it has none. A prompt means a
question then, unless the last call has failed in place while there was a
prompt; and whatever prompt there is was asked by a question at which one
of the calls has paused, since which all calls have failed in place. -/
theorem prompts_of_calls (id : String) (workflowId : Uuid) (userId node : String)
    (state : StateMap) (now : Instant) (n : Web.Network) (cs : List Calling) (c : Calling) :
    let new : Session × Web.Network := (start id workflowId userId node state now, n)
    let p := Calling.runAll cs new
    let s := (c.run p).session
    (s.status = .awaitingInput → ∃ prompt rules, PausedAt c.graph s prompt rules) ∧
    (s.status = .completed → s.prompt = none) ∧
    (PromptMeansQuestion c.graph s ↔ ¬ (c.FailsInPlace p ∧ p.1.prompt ≠ none)) ∧
    ∀ prompt, s.prompt = some prompt → AskedBy new (cs ++ [c]) prompt := by
  intro new p s
  refine ⟨Calling.paused, Calling.prompt_of_completed, c.promptMeansQuestion_iff p,
    fun prompt h => askedBy_of_prompt rfl ?_⟩
  rw [Calling.runAll_concat]
  exact h

/-! ## A question that fails -/

/-- A start and a question whose pattern cannot be read. -/
def misprintedGraph : Graph where
  nodes := [
    { workflowId := .nil, id := "s", kind := "StartNode" },
    { workflowId := .nil, id := "q", kind := questionKind, payload :=
      "\x7b\"promptText\":\"Code?\",\"stateKey\":\"code\"," ++
      "\"validationRules\":\x7b\"pattern\":\"(\"\x7d\x7d" }]
  edges := [{ workflowId := .nil, id := .nil, source := "s", target := "q" }]

/-- **The question fails at its answer and its prompt stays**: the session
has failed, and still has the prompt. -/
theorem failed_session_keeps_prompt :
    let new : Session × Web.Network := (start "misprinted" .nil "" "s" .empty .epoch, {})
    let asked : Calling := { graph := misprintedGraph, budget := 9 }
    let answered : Calling := { asked with answer := some (.string "x") }
    let s := (Calling.runAll [asked, answered] new).1
    s.status = .failed ∧ s.prompt = some "Code?" ∧ ¬ PromptMeansQuestion misprintedGraph s := by
  intro new asked answered s
  have hstatus : s.status = .failed := by decide +kernel
  have hprompt : s.prompt = some "Code?" := by decide +kernel
  refine ⟨hstatus, hprompt, fun h => ?_⟩
  obtain ⟨rules, hpaused⟩ := h _ hprompt
  cases hpaused.status.symm.trans hstatus

end Session

end Flowchart
