import Flowchart.Proofs.Session.Course
import Flowchart.Proofs.Step.Calling
import Flowchart.Proofs.Web.Client

/-!
# The state after a run

The state of a session changes by the updates of the steps that succeeded
and by nothing else (`state_of_updates`). `overlaid` lays these updates
over a state in the order of the steps, and `lastUpdate?` looks a single
variable up from the back; the two agree (`find?_overlaid`).
-/

namespace Flowchart

/-- **A call that is not granted fails with an update**: the answer would
go into the state if the step had succeeded. -/
theorem Step.call_of_not_isSuccess {input : Input} {n : Web.Network} {request : Web.Request}
    {key : String} {answer : Web.Response}
    (hrequest : Call.request input.config input.state = .ok (request, key))
    (hsend : (n.send request).1 = some answer) (hanswer : answer.isSuccess = false) :
    (call.execute input n).1.success = false ∧
      (call.execute input n).1.updates.find? key = some (Call.content answer.text) := by
  have hrun : (call.execute input n).1 = Call.answered request key answer :=
    congrArg Prod.fst (Call.execute_of_answered input hrequest hsend)
  rw [hrun]
  exact ⟨hanswer, (SortedMap.find?_insert ..).trans (if_pos rfl)⟩

namespace Session

/-! ## Updates laid over a state -/

/-- The state with the updates of the steps that succeeded, in order. -/
def overlaid (m : StateMap) (ps : List Taken) : StateMap :=
  (ps.filter (·.result.success)).foldl (fun m p => m.overlay p.result.updates) m

/-- The value that the last step which succeeded and updates a variable
gives it. -/
def lastUpdate? (ps : List Taken) (key : String) : Option Json :=
  (ps.filter (·.result.success)).reverse.findSome? (·.result.updates.find? key)

variable {ps before later : List Taken} {p : Taken}

/-- A step that sees the state leaves what it makes of it to the others. -/
theorem overlaid_cons (p : Taken) (ps : List Taken) :
    overlaid p.input.state (p :: ps) = overlaid p.stateAfter ps := by
  cases hs : p.result.success with
  | true =>
    rw [Taken.stateAfter_of_success hs]
    simp only [overlaid, List.filter_cons, hs, if_true, List.foldl_cons]
  | false =>
    rw [Taken.stateAfter_of_failure hs]
    simp only [overlaid, List.filter_cons, hs, Bool.false_eq_true, if_false]

theorem overlaid_append (m : StateMap) (ps qs : List Taken) :
    overlaid m (ps ++ qs) = overlaid (overlaid m ps) qs := by
  rw [overlaid, List.filter_append, List.foldl_append]
  rfl

/-- **The last update of a variable wins**, and a variable without one
keeps its value. -/
theorem find?_overlaid (m : StateMap) (ps : List Taken) (key : String) :
    (overlaid m ps).find? key = (lastUpdate? ps key).or (m.find? key) := by
  unfold overlaid lastUpdate?
  induction ps.filter (·.result.success) generalizing m with
  | nil => rfl
  | cons p ps ih =>
    rw [List.foldl_cons, ih, SortedMap.find?_overlay, List.reverse_cons, List.findSome?_append,
      Option.or_assoc]
    simp

/-! ## The state along a run -/

namespace Course

variable {setting : Setting} {s : Session} {n : Web.Network} {budget : Nat} {run : Run}

/-- **A run leaves the state with the updates of its steps.** -/
theorem state (h : Course setting budget s n ps run) :
    run.session.state = overlaid s.state ps := by
  induction h with
  | halted h => exact closed_state ..
  | ended v h =>
    rw [closed_state]
    exact (overlaid_cons (v.taken _) []).symm
  | moved v hgo hto rest ih =>
    rw [ih]
    exact (overlaid_cons (v.taken _) _).symm

/-- **A step sees the state with the updates of the steps before it**,
all of which succeeded. The induction takes the first of them off. -/
theorem input_state (h : Course setting budget s n ps run) (hps : ps = before ++ p :: later) :
    (∀ q ∈ before, q.result.success = true) ∧ p.input.state = overlaid s.state before := by
  induction h generalizing before with
  | halted h => simp at hps
  | @ended s n o v h =>
    have hbefore : before = [] := by
      have hlength := congrArg List.length hps
      simp only [List.length_cons, List.length_nil, List.length_append] at hlength
      exact List.eq_nil_of_length_eq_zero (by omega)
    subst hbefore
    obtain ⟨rfl, -⟩ := List.cons.inj hps
    exact ⟨by simp, (v.opens n).state⟩
  | @moved s n id ps run v hgo hto rest ih =>
    cases before with
    | nil =>
      obtain ⟨rfl, -⟩ := List.cons.inj hps
      exact ⟨by simp, (v.opens n).state⟩
    | cons q before =>
      obtain ⟨rfl, hrest⟩ := List.cons.inj hps
      obtain ⟨hsuccess, hstate⟩ := ih hrest
      refine ⟨List.forall_mem_cons.2 ⟨hgo.1, hsuccess⟩, hstate.trans ?_⟩
      exact (overlaid_cons (v.taken n) before).symm

/-- The last step leaves the state that the run leaves. -/
theorem state_of_last (h : Course setting budget s n ps run) (hp : p ∈ ps.getLast?) :
    run.session.state = p.stateAfter := by
  obtain ⟨before, rfl⟩ := List.getLast?_eq_some_iff.1 hp
  have hinput : p.input.state = overlaid s.state before := (h.input_state rfl).2
  rw [h.state, overlaid_append, ← hinput]
  exact overlaid_cons p []

/-- **A step that failed is the last one**, and the run leaves the state
that the step saw. -/
theorem state_of_failure (h : Course setting budget s n ps run) (hp : p ∈ ps)
    (hs : p.result.success = false) :
    ps.getLast? = some p ∧ run.session.state = p.input.state := by
  obtain ⟨before, later, hps⟩ := List.append_of_mem hp
  have hlater : later = [] := by
    cases later with
    | nil => rfl
    | cons q later =>
      have hsplit : ps = (before ++ [p]) ++ q :: later := by simpa using hps
      have hearlier : p.result.success = true := (h.input_state hsplit).1 p (by simp)
      cases hs.symm.trans hearlier
  have hlast : ps.getLast? = some p := by simp [hps, hlater]
  exact ⟨hlast, (h.state_of_last hlast).trans (Taken.stateAfter_of_failure hs)⟩

end Course

/-- **The state changes by the updates of the steps that succeeded**, laid
over it in their order, and by nothing else; so a variable has the value
that the last of them gives it, or else the one that it had. Each step
sees the updates of the steps before it. A step that did not succeed is
the last one and leaves the state that it saw, also if its result holds
updates, as that of a call does which is not granted. -/
theorem state_of_updates (setting : Setting) (budget : Nat) (s : Session) (n : Web.Network) :
    let steps := s.steps setting budget n
    let r := s.run setting budget n
    r.session.history = s.history ++ steps.map (·.entry setting.clock) ∧
    (∀ p ∈ steps, p.Genuine setting) ∧
    r.session.state = overlaid s.state steps ∧
    (∀ key, r.session.state.find? key = (lastUpdate? steps key).or (s.state.find? key)) ∧
    (∀ before p later, steps = before ++ p :: later →
      (∀ q ∈ before, q.result.success = true) ∧ p.input.state = overlaid s.state before) ∧
    (∀ p ∈ steps, p.result.success = false →
      steps.getLast? = some p ∧ r.session.state = p.input.state) ∧
    (∀ p ∈ steps, setting.registry.resolve? p.node.kind = some Step.call →
      ∀ request key answer, Step.Call.request p.input.config p.input.state = .ok (request, key) →
        (p.before.send request).1 = some answer → answer.isSuccess = false →
          p.result.success = false ∧
            p.result.updates.find? key = some (Step.Call.content answer.text)) := by
  intro steps r
  have course : Course setting budget { s with status := .running } n steps r :=
    course_run setting budget s n
  have hstate : r.session.state = overlaid s.state steps := course.state
  refine ⟨course.history, course.genuine, hstate, fun key => ?_, fun before p later hps => ?_,
    fun p hp hs => course.state_of_failure hp hs, ?_⟩
  · rw [hstate, find?_overlaid]
  · exact course.input_state hps
  · intro p hp hcall request key answer hrequest hsend hanswer
    obtain ⟨x, hx, hmade⟩ := (course.genuine p hp).made
    obtain rfl : Step.call = x := Option.some.inj (hcall.symm.trans hx)
    have hresult : (Step.call.execute p.input p.before).1 = p.result := congrArg Prod.fst hmade
    exact hresult ▸ Step.call_of_not_isSuccess hrequest hsend hanswer

/-! ## A call that is not granted -/

/-- A start, an assignment, and a call. -/
def callingGraph : Graph where
  nodes := [
    { workflowId := .nil, id := "s", kind := "StartNode" },
    { workflowId := .nil, id := "u", kind := "StateUpdateNode", payload :=
      "\x7b\"updates\":\x7b\"greeting\":\"hi\"\x7d\x7d" },
    { workflowId := .nil, id := "a", kind := "APICallNode", payload :=
      "\x7b\"apiUrl\":\"http://x/\",\"responseStateKey\":\"greeting\"\x7d" }]
  edges := [
    { workflowId := .nil, id := .nil, source := "s", target := "u" },
    { workflowId := .nil, id := .nil, source := "u", target := "a" }]

/-- A session of that flow. -/
def callingSession : Session :=
  start "calling" .nil "" "s" .empty .epoch

/-- The flow at the start of 1970. -/
def callingSetting : Setting where
  graph := callingGraph
  registry := .builtIn
  clock := { now := .epoch, stamp := "" }

/-- The outside answers that something is wrong. -/
def wrongAnswer : Web.Network where
  client := .finding "http://x/" [] { status := 500, body := "no".toUTF8 }

/-- **The answer of the call stays out of the state**: its step holds an
update of the variable that the assignment has written, and fails. -/
theorem calling_state_of_updates :
    let r := callingSession.run callingSetting 9 wrongAnswer
    (∃ p ∈ (callingSession.steps callingSetting 9 wrongAnswer).getLast?,
      p.result.updates.find? "greeting" = some (.string "no") ∧ p.result.success = false ∧
        r.session.state = p.input.state) ∧
      r.session.state.find? "greeting" = some (.string "hi") := by
  obtain ⟨-, -, -, -, -, hfailed, hcall⟩ :=
    state_of_updates callingSetting 9 callingSession wrongAnswer
  obtain ⟨p, hp⟩ : ∃ p, (callingSession.steps callingSetting 9 wrongAnswer).getLast? = some p :=
    Option.isSome_iff_exists.1 (by decide +kernel)
  have hmem := List.mem_of_getLast? hp
  -- the step of the call: its node, its request, and the answer to it
  have hkind : p.node.kind = "APICallNode" :=
    eq_of_map_eq_some (f := (·.node.kind)) hp (by decide +kernel)
  have hresolve : callingSetting.registry.resolve? p.node.kind = some Step.call := hkind ▸ rfl
  have hrequest : Step.Call.request p.input.config p.input.state =
      .ok ({ method := .get, url := "http://x/" }, "greeting") :=
    eq_of_map_eq_some (f := fun p => Step.Call.request p.input.config p.input.state) hp
      (by decide +kernel)
  have hsend : (p.before.send { method := .get, url := "http://x/" }).1 =
      some { status := 500, text := "no" } :=
    eq_of_map_eq_some (f := fun p => (p.before.send { method := .get, url := "http://x/" }).1) hp
      (by decide +kernel)
  obtain ⟨hsuccess, hupdate⟩ := hcall p hmem hresolve _ _ _ hrequest hsend (by decide)
  have hcontent : Step.Call.content "no" = .string "no" := by decide +kernel
  exact ⟨⟨p, hp, hcontent ▸ hupdate, hsuccess, (hfailed p hmem hsuccess).2⟩, by decide +kernel⟩

end Session

end Flowchart
