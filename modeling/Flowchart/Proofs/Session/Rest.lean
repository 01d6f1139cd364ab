import Flowchart.Proofs.Session.Course

/-!
# A session at rest

Whatever way a run ends, it leaves its session at rest: not running, with
the status that goes with the outcome, and without an answer that no step
has seen (`rested_run`). A session is completed at an end, by the step
that it stands on, or for want of a way on (`Completes`).
-/

namespace Flowchart

namespace Session

/-- **How a flow comes to its end**, after some steps and with the session
on a node. -/
inductive Completes (g : Graph) (ps : List Taken) (current : String) : Prop where
  /-- The node is an end. -/
  | arrived {node : Graph.Node} (hn : g.node? current = some node) (he : node.isEnd = true)
  /-- The last step, at the node, has ended the flow. -/
  | finished {p : Taken} (hp : p ∈ ps.getLast?) (hcurrent : current = p.node.id)
    (hs : p.result.success = true) (hi : p.result.requiresInput = false)
    (hc : p.result.isComplete = true)
  /-- The last step, at the node, has gone on, but nothing leads on. -/
  | deadEnd {p : Taken} (hp : p ∈ ps.getLast?) (hcurrent : current = p.node.id) (hgo : p.GoesOn)
    (hn : p.result.nextNode = none)
    (he : ∀ e ∈ g.edges, ¬ (e.source = p.node.id ∧ e.Fits p.result.nextPort))

/-- **A run of a session has come to rest**, after some steps. -/
structure Rested (setting : Setting) (s : Session) (ps : List Taken) (run : Run) : Prop where
  genuine : ∀ p ∈ ps, p.Genuine setting
  status : run.session.status = run.outcome.status
  notRunning : run.session.status ≠ .running
  input : run.session.input = none
  id : run.session.id = s.id
  workflowId : run.session.workflowId = s.workflowId
  userId : run.session.userId = s.userId
  /-- A session that waits has the prompt of the outcome. -/
  asking : ∀ prompt error, run.outcome = .awaitingInput prompt error → run.session.prompt = prompt
  /-- A completed session has no prompt. -/
  unprompted : ∀ message, run.outcome = .completed message → run.session.prompt = none
  /-- A session is completed where its flow comes to an end. -/
  completes : ∀ message, run.outcome = .completed message →
    Completes setting.graph ps run.session.current

variable {setting : Setting} {s : Session} {n : Web.Network} {budget : Nat}
variable {ps : List Taken} {run : Run} {message : String} {prompt error : Option String}

/-- A run that does not execute its last node does not wait for an answer. -/
theorem Halts.not_awaitingInput {id : String} {o : Outcome} (h : Halts setting budget id o) :
    o ≠ .awaitingInput prompt error := by
  cases h <;> nofun

/-- A run that halts in front of a node is completed by an end only. -/
theorem Halts.of_completed {id : String} (h : Halts setting budget id (.completed message)) :
    ∃ node, setting.graph.node? id = some node ∧ node.isEnd = true := by
  cases h with
  | arrived hn he => exact ⟨_, hn, he⟩

namespace Course

/-- **A run leaves its session closed with its outcome.** The session
before has no answer left, if the run waits for another one. -/
theorem exists_closed (h : Course setting budget s n ps run) :
    ∃ t : Session, run.session = t.closed run.outcome ∧
      ∀ prompt error, run.outcome = .awaitingInput prompt error → t.input = none := by
  induction h with
  | halted h => exact ⟨_, rfl, fun _ _ ho => absurd ho h.not_awaitingInput⟩
  | ended v h => exact ⟨v.absorbed _, rfl, fun _ _ _ => rfl⟩
  | moved v hgo hto rest ih => exact ih

theorem status (h : Course setting budget s n ps run) :
    run.session.status = run.outcome.status := by
  obtain ⟨t, ht, -⟩ := h.exists_closed
  rw [ht, closed_status]

/-- **No answer is left**: the first step has used it up, or the run has
dropped it. -/
theorem input (h : Course setting budget s n ps run) : run.session.input = none := by
  obtain ⟨t, ht, hinput⟩ := h.exists_closed
  rw [ht]
  cases ho : run.outcome with
  | completed message => rfl
  | awaitingInput prompt error => exact hinput prompt error ho
  | failed reason => rfl

theorem prompt_of_awaitingInput (h : Course setting budget s n ps run)
    (ho : run.outcome = .awaitingInput prompt error) : run.session.prompt = prompt := by
  obtain ⟨t, ht, -⟩ := h.exists_closed
  rw [ht, ho]
  rfl

theorem prompt_of_completed (h : Course setting budget s n ps run)
    (ho : run.outcome = .completed message) : run.session.prompt = none := by
  obtain ⟨t, ht, -⟩ := h.exists_closed
  rw [ht, ho]
  rfl

/-- **A run completes its session** at an end, in its last step, or for
want of a way on. -/
theorem completes (h : Course setting budget s n ps run)
    (ho : run.outcome = .completed message) :
    Completes setting.graph ps run.session.current := by
  obtain ⟨p, hp, hends, hcurrent⟩ | ⟨hhalts, -⟩ := h.end_cases
  · rw [ho] at hends
    cases hends with
    | finished hs hi hc => exact .finished hp hcurrent hs hi hc
    | deadEnd hgo hn he => exact .deadEnd hp hcurrent hgo hn he
  · rw [ho] at hhalts
    obtain ⟨node, hn, he⟩ := hhalts.of_completed
    exact .arrived hn he

end Course

theorem Outcome.status_ne_running (o : Outcome) : o.status ≠ .running := by
  cases o <;> nofun

/-- **A run leaves its session at rest**, whatever the session was like. -/
theorem rested_run (setting : Setting) (budget : Nat) (s : Session) (n : Web.Network) :
    Rested setting s (s.steps setting budget n) (s.run setting budget n) := by
  have course := course_run setting budget s n
  have same : Continues s (s.run setting budget n).session := continues_run setting budget s n
  exact {
    genuine := course.genuine
    status := course.status
    notRunning := course.status ▸ Outcome.status_ne_running _
    input := course.input
    id := same.id
    workflowId := same.workflowId
    userId := same.userId
    asking := fun _ _ ho => course.prompt_of_awaitingInput ho
    unprompted := fun _ ho => course.prompt_of_completed ho
    completes := fun _ ho => course.completes ho }

end Session

end Flowchart
