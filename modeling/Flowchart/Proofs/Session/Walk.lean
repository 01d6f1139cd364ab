import Flowchart.Proofs.Session.Course

/-!
# The history is a walk

What a run adds to the history of its session is a walk through the
graph, and the session stands at the end of it (`history_is_walk`).
-/

namespace Flowchart

namespace Session

/-- **The history of a run is a walk.** The entries that a run adds are
those of its steps; each step is genuine, the first one is taken where
the session stood, and each one follows the one before it, so that it is
taken where that one has led. The run ends in its last step, and then the
session stands at the node of that step: it was paused, ended by the
executor, left without a way on, or failed there. Or the run ends at the
node to which the steps have led, without executing it. -/
theorem history_is_walk (setting : Setting) (budget : Nat) (s : Session) (n : Web.Network) :
    let steps := s.steps setting budget n
    let r := s.run setting budget n
    r.session.history = s.history ++ steps.map (·.entry setting.clock) ∧
    (∀ p ∈ steps.head?, p.Opens s n) ∧
    (∀ p ∈ steps, p.Genuine setting) ∧
    steps.IsChain (Taken.Follows setting.graph) ∧
    ((∃ p ∈ steps.getLast?, p.Ends setting.graph r.outcome ∧ r.session.current = p.node.id) ∨
      Halts setting budget r.session.current r.outcome ∧
        (∀ p ∈ steps.getLast?, p.GoesOn ∧ p.LeadsTo setting.graph r.session.current) ∧
        (steps = [] → r.session.current = s.current)) := by
  intro steps r
  have course : Course setting budget { s with status := .running } n steps r :=
    course_run setting budget s n
  refine ⟨course.history, fun p hp => ?_, course.genuine, course.follows, course.end_cases⟩
  obtain ⟨hindex, hcurrent, hstate, hanswer, houtside⟩ := course.opens p hp
  exact ⟨hindex, hcurrent, hstate, hanswer, houtside⟩

/-! ## A flow with two ways -/

/-- A start, a choice, and a question behind its second way; the edges
are not in the order of the ways. -/
def choiceGraph : Graph where
  nodes := [
    { workflowId := .nil, id := "s", kind := "StartNode" },
    { workflowId := .nil, id := "c", kind := "condition", payload :=
      "\x7b\"branches\":[\x7b\"condition\":\"x\",\"port\":\"yes\"\x7d," ++
      "\x7b\"port\":\"no\",\"isDefault\":true\x7d]\x7d" },
    { workflowId := .nil, id := "q", kind := "QuestionNode" },
    { workflowId := .nil, id := "e", kind := "EndNode" }]
  edges := [
    { workflowId := .nil, id := .nil, source := "s", target := "c" },
    { workflowId := .nil, id := .nil, source := "c", target := "q", sourcePort := some "no" },
    { workflowId := .nil, id := .nil, source := "c", target := "e", sourcePort := some "yes" }]

/-- A session of that flow. -/
def choiceSession : Session :=
  start "choice" .nil "" "s" .empty .epoch

/-- The flow at the start of 1970. -/
def choiceSetting : Setting where
  graph := choiceGraph
  registry := .builtIn
  clock := { now := .epoch, stamp := "" }

/-- **The walk through that flow**: no branch holds, so the choice leads
through the port of the other cases, and the question pauses the run. -/
theorem choice_history_is_walk :
    (choiceSession.run choiceSetting 9 {}).session.history.map (·.nodeId) = ["s", "c", "q"] ∧
      (choiceSession.steps choiceSetting 9 {}).IsChain (Taken.Follows choiceGraph) ∧
      (choiceSession.run choiceSetting 9 {}).session.current = "q" := by
  obtain ⟨hhistory, -, -, hfollows, -⟩ := history_is_walk choiceSetting 9 choiceSession {}
  have hsteps : (choiceSession.steps choiceSetting 9 {}).map (·.node.id) = ["s", "c", "q"] := by
    decide +kernel
  have hcurrent : (choiceSession.run choiceSetting 9 {}).session.current = "q" := by
    decide +kernel
  refine ⟨?_, hfollows, hcurrent⟩
  rw [hhistory, List.map_append, List.map_map, ← hsteps]
  simp only [Function.comp_def, Taken.nodeId_entry]
  rfl

end Session

end Flowchart
