import Flowchart.Proofs.Graph.WayOut
import Flowchart.Proofs.Session.Outside
import Mathlib.Data.List.Chain

/-!
# The course of a run

A run takes some steps and then ends: in its last step, or at a node that
it has come to and does not execute. `steps` lists the steps with all
that they were made of, `Taken.Ends` and `Halts` say with which outcome a
run ends in a step or in front of one, and `Course` puts the two together
(`course_runFrom`). What a run records, where it goes and what it makes
of the state are inductions on its course.
-/

namespace Flowchart

namespace Session

variable {setting : Setting} {s s' : Session} {n n' : Web.Network} {budget left : Nat}

/-! ## Steps -/

/-- A step that a run takes. -/
structure Taken where
  /-- How many steps the session has behind it. -/
  index : Nat
  /-- The node. -/
  node : Graph.Node
  /-- What the step is made of. -/
  input : Step.Input
  /-- The outside before it. -/
  before : Web.Network
  /-- What the executor makes of it. -/
  result : Step.Result
  /-- The outside after it. -/
  after : Web.Network

namespace Taken

/-- The step as the history keeps it. -/
def entry (p : Taken) (clock : Clock) : Entry :=
  .ofResult p.node.id p.node.kind p.result (clock.moment p.index).now

@[simp] theorem nodeId_entry (p : Taken) (clock : Clock) : (p.entry clock).nodeId = p.node.id := rfl

/-- The state that the step leaves: one that succeeded makes its updates,
and one that did not makes none. -/
def stateAfter (p : Taken) : StateMap :=
  if p.result.success then p.input.state.overlay p.result.updates else p.input.state

theorem stateAfter_of_success {p : Taken} (hs : p.result.success = true) :
    p.stateAfter = p.input.state.overlay p.result.updates :=
  if_pos hs

theorem stateAfter_of_failure {p : Taken} (hs : p.result.success = false) :
    p.stateAfter = p.input.state :=
  if_neg (Bool.not_eq_true _ ▸ hs)

/-- **The step is genuine**: its node is the one that the graph has under
this name, no end, and the executor of the node has made the result of
the configuration of the node. -/
structure Genuine (setting : Setting) (p : Taken) : Prop where
  /-- The graph has the node. -/
  found : setting.graph.node? p.node.id = some p.node
  /-- The node ends no flow. -/
  notEnd : p.node.isEnd = false
  /-- The configuration is that of the node. -/
  configured : p.node.config? = .ok p.input.config
  /-- The step is told which node it is at. -/
  named : p.input.nodeId = p.node.id
  /-- The step is told its moment. -/
  stamped : p.input.stamp = (setting.clock.moment p.index).stamp
  /-- The executor of the node has made the result. -/
  made : ∃ x, setting.registry.resolve? p.node.kind = some x ∧
    x.execute p.input p.before = (p.result, p.after)

/-- The step succeeded, asked for nothing and did not end the flow. -/
def GoesOn (p : Taken) : Prop :=
  p.result.success = true ∧ p.result.requiresInput = false ∧ p.result.isComplete = false

/-- **Where a step leads**: to the node that its result names, else to the
target of the first edge that leaves its node through the port of the
result. -/
inductive LeadsTo (g : Graph) (p : Taken) : String → Prop where
  /-- The result names the node. -/
  | named {id : String} (hn : p.result.nextNode = some id) : LeadsTo g p id
  /-- The result names none. -/
  | through {e : Graph.Edge} (hn : p.result.nextNode = none)
    (he : g.FirstOut p.node.id p.result.nextPort e) : LeadsTo g p e.target

/-- **How a run ends in a step**, with its outcome. -/
inductive Ends (g : Graph) (p : Taken) : Outcome → Prop where
  /-- The step asks, or asks again. -/
  | paused (hi : p.result.requiresInput = true) :
    Ends g p (.awaitingInput p.result.message (if p.result.success then none else p.result.error))
  /-- The step failed. -/
  | failed (hs : p.result.success = false) (hi : p.result.requiresInput = false) :
    Ends g p
      (.failed (.stepFailed (p.result.error.getD ("node '" ++ p.node.id ++ "' failed"))))
  /-- The step ends the flow. -/
  | finished (hs : p.result.success = true) (hi : p.result.requiresInput = false)
    (hc : p.result.isComplete = true) :
    Ends g p (.completed (p.result.message.getD completedMessage))
  /-- Nothing leads on. -/
  | deadEnd (h : p.GoesOn) (hn : p.result.nextNode = none)
    (he : ∀ e ∈ g.edges, ¬ (e.source = p.node.id ∧ e.Fits p.result.nextPort)) :
    Ends g p (.completed deadEndMessage)

/-- A step that asks ends the run in waiting. -/
theorem Ends.of_requiresInput {g : Graph} {p : Taken} {o : Outcome} (h : p.Ends g o)
    (hi : p.result.requiresInput = true) :
    o = .awaitingInput p.result.message (if p.result.success then none else p.result.error) := by
  cases h with
  | paused => rfl
  | failed hs hi' => cases hi'.symm.trans hi
  | finished hs hi' => cases hi'.symm.trans hi
  | deadEnd hgo => cases hgo.2.1.symm.trans hi

/-- A step that failed and does not ask ends the run in failure. -/
theorem Ends.of_failure {g : Graph} {p : Taken} {o : Outcome} (h : p.Ends g o)
    (hs : p.result.success = false) (hi : p.result.requiresInput = false) :
    o = .failed (.stepFailed (p.result.error.getD ("node '" ++ p.node.id ++ "' failed"))) := by
  cases h with
  | paused hi' => cases hi.symm.trans hi'
  | failed => rfl
  | finished hs' => cases hs.symm.trans hs'
  | deadEnd hgo => cases hs.symm.trans hgo.1

/-- The step leads where the run goes next. -/
theorem leadsTo_iff {g : Graph} {p : Taken} {id : String} :
    p.LeadsTo g id ↔ next? g p.node p.result = some id := by
  unfold next?
  constructor
  · rintro (hn | ⟨hn, he⟩)
    · rw [hn]
    · rw [hn, Graph.wayOut?_eq_some_iff.2 he]
      rfl
  · intro h
    split at h
    · next target hn => exact .named (hn.trans h)
    · next hn =>
      obtain ⟨e, he, rfl⟩ := Option.map_eq_some_iff.1 h
      exact .through hn (Graph.wayOut?_eq_some_iff.1 he)

/-- Where the run has no next node, none is named and no edge fits. -/
theorem next?_eq_none {g : Graph} {p : Taken} (h : next? g p.node p.result = none) :
    p.result.nextNode = none ∧
      ∀ e ∈ g.edges, ¬ (e.source = p.node.id ∧ e.Fits p.result.nextPort) := by
  unfold next? at h
  split at h
  · cases h
  · next hn => exact ⟨hn, Graph.wayOut?_eq_none_iff.1 (Option.map_eq_none_iff.1 h)⟩

/-- **One step comes after another**: the first one went on and led there,
and the second one is made of what the first one left. -/
structure Follows (g : Graph) (p q : Taken) : Prop where
  /-- There is no step between them. -/
  index : q.index = p.index + 1
  /-- The first step went on. -/
  goesOn : p.GoesOn
  /-- It led to the node of the second one. -/
  leads : p.LeadsTo g q.node.id
  /-- The state is as the first one left it. -/
  state : q.input.state = p.stateAfter
  /-- The answer is used up. -/
  answer : q.input.answer = none
  /-- The outside is as the first one left it. -/
  outside : q.before = p.after

/-- **The first step** of a run is at the node where the session stands,
and is made of what the session holds. -/
structure Opens (s : Session) (n : Web.Network) (p : Taken) : Prop where
  index : p.index = s.history.length
  current : p.node.id = s.current
  state : p.input.state = s.state
  answer : p.input.answer = s.input
  outside : p.before = n

end Taken

/-- The step of a visit. -/
def Visit.taken (v : Visit setting s) (n : Web.Network) : Taken where
  index := s.history.length
  node := v.node
  input := v.input
  before := n
  result := v.result n
  after := v.network n

/-- The next step of a run, if it takes one. -/
def taken? (setting : Setting) (s : Session) (n : Web.Network) : Option Taken :=
  match arrive setting.graph s with
  | .error _ => none
  | .ok node =>
    match prepare setting.registry node with
    | .error _ => none
    | .ok (executor, config) =>
      let input := stepInput setting node config s
      let (result, after) := executor.execute input n
      some { index := s.history.length, node, input, before := n, result, after }

/-- The steps that a run takes with some of its budget left. -/
def stepsFrom (setting : Setting) : (left : Nat) → Session → Web.Network → List Taken
  | 0, _, _ => []
  | left + 1, s, n =>
    (taken? setting s n).toList ++
      match turn setting s n with
      | .error _ => []
      | .ok (s, n) => stepsFrom setting left s n

/-- **The steps that a run takes.** -/
def steps (setting : Setting) (budget : Nat) (s : Session) (n : Web.Network) : List Taken :=
  stepsFrom setting budget { s with status := .running } n

/-- The session with the step recorded and the state that it leaves. -/
def Visit.absorbed (v : Visit setting s) (n : Web.Network) : Session :=
  { v.recorded n with state := (v.taken n).stateAfter }

/-- The session that the step has taken to another node. -/
def Visit.moved (v : Visit setting s) (n : Web.Network) (id : String) : Session :=
  { v.absorbed n with prompt := none, current := id }

theorem Visit.absorbed_of_success (v : Visit setting s) (hs : (v.result n).success = true) :
    v.absorbed n = (v.recorded n).apply (v.result n).updates :=
  congrArg (fun state => { v.recorded n with state }) (Taken.stateAfter_of_success hs)

theorem Visit.absorbed_of_failure (v : Visit setting s) (hs : (v.result n).success = false) :
    v.absorbed n = v.recorded n :=
  congrArg (fun state => { v.recorded n with state }) (Taken.stateAfter_of_failure hs)

theorem taken?_of_visit (v : Visit setting s) (n : Web.Network) :
    taken? setting s n = some (v.taken n) := by
  simp only [taken?, v.arrived, v.prepared]
  rfl

theorem Visit.genuine (v : Visit setting s) (n : Web.Network) : (v.taken n).Genuine setting := by
  obtain ⟨hfound, hend⟩ := arrive_ok v.arrived
  obtain ⟨hresolve, hconfig⟩ := prepare_ok v.prepared
  have hid : v.node.id = s.current := (mem_of_arrive_ok v.arrived).2
  exact ⟨hid ▸ hfound, hend, hconfig, rfl, rfl, v.executor, hresolve, rfl⟩

theorem Visit.opens (v : Visit setting s) (n : Web.Network) : (v.taken n).Opens s n :=
  ⟨rfl, (mem_of_arrive_ok v.arrived).2, rfl, rfl, rfl⟩

/-! ## Ends -/

/-- The status that goes with an outcome. -/
def Outcome.status : Outcome → Status
  | completed _ => .completed
  | awaitingInput _ _ => .awaitingInput
  | failed _ => .failed

/-- The session as a run with an outcome leaves it. -/
def closed (s : Session) : Outcome → Session
  | .completed message => (s.complete message).1
  | .awaitingInput prompt error => (s.await prompt error).1
  | .failed reason => (s.fail reason).1

@[simp] theorem closed_status (s : Session) (o : Outcome) : (s.closed o).status = o.status := by
  cases o <;> rfl

@[simp] theorem closed_current (s : Session) (o : Outcome) : (s.closed o).current = s.current := by
  cases o <;> rfl

@[simp] theorem closed_state (s : Session) (o : Outcome) : (s.closed o).state = s.state := by
  cases o <;> rfl

@[simp] theorem closed_history (s : Session) (o : Outcome) : (s.closed o).history = s.history := by
  cases o <;> rfl

/-- **How a run ends at a node that it does not execute**, with its
outcome. -/
inductive Halts (setting : Setting) (budget : Nat) (id : String) : Outcome → Prop where
  /-- There is no such node. -/
  | lost (hn : setting.graph.node? id = none) :
    Halts setting budget id (.failed (.nodeNotFound id))
  /-- The node ends the flow. -/
  | arrived {node : Graph.Node} (hn : setting.graph.node? id = some node)
    (he : node.isEnd = true) : Halts setting budget id (.completed completedMessage)
  /-- The budget is used up. -/
  | cut {node : Graph.Node} (hn : setting.graph.node? id = some node) (he : node.isEnd = false) :
    Halts setting budget id (.failed (.stepBudgetExceeded budget))
  /-- No executor takes the node. -/
  | unknown {node : Graph.Node} (hn : setting.graph.node? id = some node)
    (he : node.isEnd = false) (hr : setting.registry.resolve? node.kind = none) :
    Halts setting budget id (.failed (.noExecutor node.kind))
  /-- The configuration of the node cannot be read. -/
  | misconfigured {node : Graph.Node} {reason : NodeConfig.Error}
    (hn : setting.graph.node? id = some node) (he : node.isEnd = false)
    (hc : node.config? = .error reason) :
    Halts setting budget id (.failed (.invalidNodeConfig node.id reason))

/-- A session that ends where it stands halts there. -/
theorem halts_of_arrive_error {e : Session × Outcome} (h : arrive setting.graph s = .error e)
    (budget : Nat) :
    Halts setting budget s.current e.2 ∧ e.1 = s.closed e.2 := by
  obtain ⟨hn, rfl⟩ | ⟨node, hn, he, rfl⟩ := arrive_error h
  · exact ⟨.lost hn, rfl⟩
  · exact ⟨.arrived hn he, rfl⟩

/-- A node that cannot be prepared halts the run. -/
theorem halts_of_prepare_error {node : Graph.Node} {reason : Failure}
    (ha : arrive setting.graph s = .ok node) (h : prepare setting.registry node = .error reason) :
    Halts setting budget s.current (.failed reason) := by
  obtain ⟨hn, he⟩ := arrive_ok ha
  unfold prepare at h
  split at h
  · next hr =>
    obtain rfl := Except.error.inj h
    exact .unknown hn he hr
  · split at h
    · next hc =>
      obtain rfl := Except.error.inj h
      exact .misconfigured hn he hc
    · cases h

/-- **A step ends the run or takes it to the next node.** -/
theorem Visit.turn_cases (v : Visit setting s) (n : Web.Network) :
    (∃ o, (v.taken n).Ends setting.graph o ∧
      turn setting s n = .error ⟨(v.absorbed n).closed o, o, v.network n⟩) ∨
    (∃ id, (v.taken n).GoesOn ∧ (v.taken n).LeadsTo setting.graph id ∧
      turn setting s n = .ok (v.moved n id, v.network n)) := by
  have hturn := turn_of_visit v (n := n)
  have hset := settled_settle setting.graph v.node (v.result n) (v.recorded n)
  have hresult : (v.taken n).result = v.result n := rfl
  change Settled _ _ _ _ (v.settled n) at hset
  generalize v.settled n = out at hturn hset
  -- each way to settle the result is one way for the step to end the run, or the move
  cases hset with
  | refused hs hi =>
    refine .inl ⟨_, .paused hi, ?_⟩
    simp only [hturn, hresult, hs, v.absorbed_of_failure hs]
    rfl
  | failed hs hi =>
    refine .inl ⟨_, .failed hs hi, ?_⟩
    rw [hturn, v.absorbed_of_failure hs]
    rfl
  | asked hs hi =>
    refine .inl ⟨_, .paused hi, ?_⟩
    simp only [hturn, hresult, hs, v.absorbed_of_success hs]
    rfl
  | finished hs hi hc =>
    refine .inl ⟨_, .finished hs hi hc, ?_⟩
    rw [hturn, v.absorbed_of_success hs]
    rfl
  | deadEnd hs hi hc hn =>
    obtain ⟨hnone, hedges⟩ := Taken.next?_eq_none (p := v.taken n) hn
    refine .inl ⟨_, .deadEnd ⟨hs, hi, hc⟩ hnone hedges, ?_⟩
    rw [hturn, v.absorbed_of_success hs]
    rfl
  | moved id hs hi hc hn =>
    refine .inr ⟨id, ⟨hs, hi, hc⟩, Taken.leadsTo_iff.2 hn, ?_⟩
    rw [hturn, Visit.moved, v.absorbed_of_success hs]

/-- **A step that asks ends the run**, which waits for an answer. -/
theorem Visit.turn_of_requiresInput (v : Visit setting s) (n : Web.Network)
    (h : (v.taken n).result.requiresInput = true) :
    ∃ o error, o = .awaitingInput (v.taken n).result.message error ∧
      turn setting s n = .error ⟨(v.absorbed n).closed o, o, v.network n⟩ := by
  obtain ⟨o, hends, ht⟩ | ⟨id, hgo, -⟩ := v.turn_cases n
  · refine ⟨o, ?_⟩
    cases hends with
    | paused hi => exact ⟨_, rfl, ht⟩
    | failed hs hi => cases hi.symm.trans h
    | finished hs hi hc => cases hi.symm.trans h
    | deadEnd hgo => cases hgo.2.1.symm.trans h
  · cases hgo.2.1.symm.trans h

/-! ## The course -/

/-- **The course of a run** from a session: the steps that it takes, and
how it ends. -/
inductive Course (setting : Setting) (budget : Nat) :
    Session → Web.Network → List Taken → Run → Prop where
  /-- The run ends where the session stands. -/
  | halted {s : Session} {n : Web.Network} {o : Outcome}
    (h : Halts setting budget s.current o) : Course setting budget s n [] ⟨s.closed o, o, n⟩
  /-- The run ends in its first step. -/
  | ended {s : Session} {n : Web.Network} {o : Outcome} (v : Visit setting s)
    (h : (v.taken n).Ends setting.graph o) :
    Course setting budget s n [v.taken n] ⟨(v.absorbed n).closed o, o, v.network n⟩
  /-- The first step leads to another node, from where the run goes on. -/
  | moved {s : Session} {n : Web.Network} {id : String} {ps : List Taken} {run : Run}
    (v : Visit setting s) (hgo : (v.taken n).GoesOn)
    (hto : (v.taken n).LeadsTo setting.graph id)
    (rest : Course setting budget (v.moved n id) (v.network n) ps run) :
    Course setting budget s n (v.taken n :: ps) run

/-- **A run takes its steps and ends as its course says.** The induction
is on the steps that are left. -/
theorem course_runFrom (setting : Setting) (budget left : Nat) (s : Session) (n : Web.Network) :
    Course setting budget s n (stepsFrom setting left s n) (runFrom setting budget left s n) := by
  induction left generalizing s n with
  | zero =>
    cases ha : arrive setting.graph s with
    | error e =>
      obtain ⟨hhalts, hclosed⟩ := halts_of_arrive_error ha budget
      rw [runFrom_of_arrive_error ha, Run.of, hclosed]
      exact .halted hhalts
    | ok node =>
      obtain ⟨hn, he⟩ := arrive_ok ha
      rw [runFrom_zero ha]
      exact .halted (.cut hn he)
  | succ left ih =>
    rw [runFrom_succ, stepsFrom]
    obtain ⟨e, ha, ht⟩ | ⟨node, reason, ha, hp, ht⟩ | ⟨⟨v⟩⟩ := turn_cases setting s n
    · obtain ⟨hhalts, hclosed⟩ := halts_of_arrive_error ha budget
      have hnone : taken? setting s n = none := by rw [taken?, ha]
      rw [ht, hnone, Run.of, hclosed]
      exact .halted hhalts
    · have hnone : taken? setting s n = none := by simp only [taken?, ha, hp]
      rw [ht, hnone]
      exact .halted (halts_of_prepare_error ha hp)
    · rw [taken?_of_visit v]
      obtain ⟨o, hends, ht⟩ | ⟨id, hgo, hto, ht⟩ := v.turn_cases n
      · rw [ht]
        exact .ended v hends
      · rw [ht]
        exact .moved v hgo hto (ih _ _)

theorem course_run (setting : Setting) (budget : Nat) (s : Session) (n : Web.Network) :
    Course setting budget { s with status := .running } n (s.steps setting budget n)
      (s.run setting budget n) :=
  course_runFrom setting budget budget _ n

namespace Course

variable {ps : List Taken} {run : Run}

/-- **A run records its steps**, in order, after what was recorded
before. -/
theorem history (h : Course setting budget s n ps run) :
    run.session.history = s.history ++ ps.map (·.entry setting.clock) := by
  induction h with
  | halted h => simp
  | ended v h =>
    rw [closed_history]
    rfl
  | moved v hgo hto rest ih =>
    rw [ih, List.map_cons, List.append_cons]
    rfl

/-- The first step is taken where the session stands. -/
theorem opens (h : Course setting budget s n ps run) : ∀ p ∈ ps.head?, p.Opens s n := by
  intro p hp
  cases h with
  | halted h => cases hp
  | ended v h => exact Option.some.inj hp ▸ v.opens n
  | moved v hgo hto rest => exact Option.some.inj hp ▸ v.opens n

/-- Every step is genuine. -/
theorem genuine (h : Course setting budget s n ps run) : ∀ p ∈ ps, p.Genuine setting := by
  induction h with
  | halted h => simp
  | ended v h => simpa using v.genuine _
  | moved v hgo hto rest ih => exact List.forall_mem_cons.2 ⟨v.genuine _, ih⟩

/-- **Each step follows the one before it.** -/
theorem follows (h : Course setting budget s n ps run) :
    ps.IsChain (Taken.Follows setting.graph) := by
  induction h with
  | halted h => exact .nil
  | ended v h => exact .singleton _
  | @moved s n id ps run v hgo hto rest ih =>
    refine List.isChain_cons.2 ⟨fun q hq => ?_, ih⟩
    have hopens : q.Opens (v.moved n id) (v.network n) := rest.opens q hq
    have hindex : q.index = s.history.length + 1 := by
      simpa [Visit.moved, Visit.absorbed, Visit.recorded, record] using hopens.index
    exact ⟨hindex, hgo, hopens.current ▸ hto, hopens.state, hopens.answer, hopens.outside⟩

/-- **How a run ends**: in its last step, where the session still stands,
or at the node to which its steps have led. -/
theorem end_cases (h : Course setting budget s n ps run) :
    (∃ p ∈ ps.getLast?, p.Ends setting.graph run.outcome ∧ run.session.current = p.node.id) ∨
    (Halts setting budget run.session.current run.outcome ∧
      (∀ p ∈ ps.getLast?, p.GoesOn ∧ p.LeadsTo setting.graph run.session.current) ∧
      (ps = [] → run.session.current = s.current)) := by
  induction h with
  | halted h =>
    rw [closed_current]
    exact .inr ⟨h, by simp, fun _ => rfl⟩
  | @ended s n o v h =>
    rw [closed_current]
    exact .inl ⟨v.taken n, rfl, h, (v.opens n).current.symm⟩
  | @moved s n id ps run v hgo hto rest ih =>
    cases ps with
    | nil =>
      -- the step is the last one, and the run ends where it has led
      obtain ⟨p, hp, -⟩ | ⟨hhalts, -, hcurrent⟩ := ih
      · cases hp
      · have hid : run.session.current = id := hcurrent rfl
        rw [hid] at hhalts ⊢
        exact .inr ⟨hhalts, by simpa using ⟨hgo, hto⟩, nofun⟩
    | cons p ps =>
      rw [List.getLast?_cons_cons]
      exact ih.imp_right fun ⟨hhalts, hlast, _⟩ => ⟨hhalts, hlast, nofun⟩

end Course

end Session

end Flowchart
