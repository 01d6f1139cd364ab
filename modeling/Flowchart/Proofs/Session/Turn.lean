import Flowchart.Session.Loop

/-!
# One turn of a run

A run repeats one turn: the session ends where it stands, or a node is
executed and the session ends there or goes on to the next node. `turn`
is that step as a function of its own and `runFrom_succ` says that a run
is its repetition. What a turn can do is said once, by `turn_cases` and
`settled_settle`; every invariant of a run is read off these two.
-/

namespace Flowchart

namespace Session

/-- A run that ends here. -/
def Run.of (e : Session × Outcome) (n : Web.Network) : Run where
  session := e.1
  outcome := e.2
  network := n

/-- The run was cut off by its budget. -/
def Outcome.IsCut (o : Outcome) : Prop :=
  ∃ budget, o = .failed (.stepBudgetExceeded budget)

/-- One turn: the run as it ends, or what the next turn starts with. -/
def turn (setting : Setting) (s : Session) (n : Web.Network) :
    Except Run (Session × Web.Network) :=
  match arrive setting.graph s with
  | .error e => .error (.of e n)
  | .ok node =>
    match prepare setting.registry node with
    | .error reason => .error (.of (s.fail reason) n)
    | .ok (executor, config) =>
      match step setting node executor config s n with
      | ((s, some outcome), n) => .error (.of (s, outcome) n)
      | ((s, none), n) => .ok (s, n)

variable {setting : Setting} {s s' : Session} {n n' : Web.Network} {run : Run}
variable {budget left : Nat}

/-! ## A run is a repetition of turns -/

/-- A session that ends where it stands ends so under every budget. -/
theorem runFrom_of_arrive_error {e : Session × Outcome} (h : arrive setting.graph s = .error e) :
    runFrom setting budget left s n = .of e n := by
  unfold runFrom
  simp only [h, Run.of]

/-- Without steps left a session that stands on a node to execute is cut
off. -/
theorem runFrom_zero {node : Graph.Node} (h : arrive setting.graph s = .ok node) :
    runFrom setting budget 0 s n = .of (s.fail (.stepBudgetExceeded budget)) n := by
  unfold runFrom
  simp only [h, Run.of]

/-- **A run with steps left takes one turn and is the run of what the
turn left.** -/
theorem runFrom_succ :
    runFrom setting budget (left + 1) s n =
      match turn setting s n with
      | .error run => run
      | .ok (s, n) => runFrom setting budget left s n := by
  rw [turn]
  cases ha : arrive setting.graph s with
  | error e => exact runFrom_of_arrive_error ha
  | ok node =>
    conv => lhs; unfold runFrom
    simp only [ha]
    cases prepare setting.registry node with
    | error reason => rfl
    | ok p =>
      obtain ⟨executor, config⟩ := p
      simp only
      rcases step setting node executor config s n with ⟨⟨t, _ | o⟩, m⟩ <;> rfl

theorem runFrom_of_turn_error (h : turn setting s n = .error run) :
    runFrom setting budget (left + 1) s n = run := by
  rw [runFrom_succ, h]

theorem runFrom_of_turn_ok (h : turn setting s n = .ok (s', n')) :
    runFrom setting budget (left + 1) s n = runFrom setting budget left s' n' := by
  rw [runFrom_succ, h]

/-- **The induction over a run.** A property that the turns keep holds
where the run ends, whichever way it ends. -/
theorem runFrom_induction {P : Session → Web.Network → Prop} {Q : Run → Prop}
    (hgo : ∀ s n s' n', P s n → turn setting s n = .ok (s', n') → P s' n')
    (hend : ∀ s n run, P s n → turn setting s n = .error run → Q run)
    (hcut : ∀ s n, P s n → Q (.of (s.fail (.stepBudgetExceeded budget)) n)) :
    ∀ left s n, P s n → Q (runFrom setting budget left s n) := by
  intro left
  induction left with
  | zero =>
    intro s n hp
    cases h : arrive setting.graph s with
    | error e =>
      rw [runFrom_of_arrive_error h]
      exact hend s n _ hp (by rw [turn, h])
    | ok node =>
      rw [runFrom_zero h]
      exact hcut s n hp
  | succ left ih =>
    intro s n hp
    cases h : turn setting s n with
    | error run =>
      rw [runFrom_of_turn_error h]
      exact hend s n run hp h
    | ok p =>
      rw [runFrom_of_turn_ok h]
      exact ih p.1 p.2 (hgo s n p.1 p.2 hp h)

/-! ## What a turn does -/

/-- A node that a session is about to execute. -/
structure Visit (setting : Setting) (s : Session) where
  /-- The node. -/
  node : Graph.Node
  /-- Its executor. -/
  executor : Step.Executor
  /-- Its configuration. -/
  config : NodeConfig
  /-- The session stands on it. -/
  arrived : arrive setting.graph s = .ok node
  /-- The registry and the node give both. -/
  prepared : prepare setting.registry node = .ok (executor, config)

namespace Visit

/-- What the step is made of. -/
def input (v : Visit setting s) : Step.Input :=
  stepInput setting v.node v.config s

/-- The result of the step. -/
def result (v : Visit setting s) (n : Web.Network) : Step.Result :=
  (v.executor.execute v.input n).1

/-- The outside after the step. -/
def network (v : Visit setting s) (n : Web.Network) : Web.Network :=
  (v.executor.execute v.input n).2

/-- The step as the history keeps it. -/
def entry (v : Visit setting s) (n : Web.Network) : Entry :=
  .ofResult v.node.id v.node.kind (v.result n) (s.moment setting.clock).now

/-- The session with the step recorded and the answer used up. -/
def recorded (v : Visit setting s) (n : Web.Network) : Session :=
  { s with input := none }.record (v.entry n) (s.moment setting.clock).now

/-- Where the step leads. -/
def settled (v : Visit setting s) (n : Web.Network) : Session × Option Outcome :=
  settle setting.graph v.node (v.result n) (v.recorded n)

end Visit

theorem step_eq_of_visit (v : Visit setting s) :
    step setting v.node v.executor v.config s n = (v.settled n, v.network n) := rfl

/-- The turn of a visit. -/
theorem turn_of_visit (v : Visit setting s) :
    turn setting s n =
      match v.settled n with
      | (s, some outcome) => .error (.of (s, outcome) (v.network n))
      | (s, none) => .ok (s, v.network n) := by
  rw [turn, v.arrived]
  simp only [v.prepared, step_eq_of_visit]
  rcases v.settled n with ⟨t, _ | o⟩ <;> rfl

/-- **A turn ends where the session stands, or before the node is
executed, or is a visit.** -/
theorem turn_cases (setting : Setting) (s : Session) (n : Web.Network) :
    (∃ e, arrive setting.graph s = .error e ∧ turn setting s n = .error (.of e n)) ∨
    (∃ node reason, arrive setting.graph s = .ok node ∧
      prepare setting.registry node = .error reason ∧
      turn setting s n = .error (.of (s.fail reason) n)) ∨
    Nonempty (Visit setting s) := by
  cases ha : arrive setting.graph s with
  | error e => exact .inl ⟨e, rfl, by rw [turn, ha]⟩
  | ok node =>
    cases hp : prepare setting.registry node with
    | error reason => exact .inr (.inl ⟨node, reason, rfl, hp, by rw [turn, ha]; simp only [hp]⟩)
    | ok p => exact .inr (.inr ⟨⟨node, p.1, p.2, ha, hp⟩⟩)

/-- The ways in which a recorded result settles a turn. -/
inductive Settled (g : Graph) (node : Graph.Node) (r : Step.Result) (s : Session) :
    Session × Option Outcome → Prop where
  /-- The answer was refused. -/
  | refused (hs : r.success = false) (hi : r.requiresInput = true) :
    Settled g node r s (ended (s.await r.message r.error))
  /-- The step failed. -/
  | failed (hs : r.success = false) (hi : r.requiresInput = false) :
    Settled g node r s
      (ended (s.fail (.stepFailed (r.error.getD ("node '" ++ node.id ++ "' failed")))))
  /-- The step asks. -/
  | asked (hs : r.success = true) (hi : r.requiresInput = true) :
    Settled g node r s (ended ((s.apply r.updates).await r.message none))
  /-- The step ends the flow. -/
  | finished (hs : r.success = true) (hi : r.requiresInput = false) (hc : r.isComplete = true) :
    Settled g node r s (ended
      (complete { s.apply r.updates with prompt := none } (r.message.getD completedMessage)))
  /-- Nothing leads on. -/
  | deadEnd (hs : r.success = true) (hi : r.requiresInput = false) (hc : r.isComplete = false)
    (hn : next? g node r = none) :
    Settled g node r s
      (ended (complete { s.apply r.updates with prompt := none } deadEndMessage))
  /-- The session goes on to another node. -/
  | moved (id : String) (hs : r.success = true) (hi : r.requiresInput = false)
    (hc : r.isComplete = false) (hn : next? g node r = some id) :
    Settled g node r s ({ s.apply r.updates with prompt := none, current := id }, none)

/-- **A recorded result settles a turn in one of these ways.** -/
theorem settled_settle (g : Graph) (node : Graph.Node) (r : Step.Result) (s : Session) :
    Settled g node r s (settle g node r s) := by
  unfold settle
  cases hs : r.success with
  | false =>
    cases hi : r.requiresInput with
    | false => exact .failed hs hi
    | true => exact .refused hs hi
  | true =>
    cases hi : r.requiresInput with
    | true => exact .asked hs hi
    | false =>
      cases hc : r.isComplete with
      | true => exact .finished hs hi hc
      | false =>
        simp only [if_true, Bool.false_eq_true, if_false]
        cases hn : next? g node r with
        | none => exact .deadEnd hs hi hc hn
        | some id => exact .moved id hs hi hc hn

/-- **A turn that goes on is a visit that names the next node.** The step
succeeded, asked for nothing and did not end the flow. -/
theorem visit_of_turn_ok (h : turn setting s n = .ok (s', n')) :
    ∃ (v : Visit setting s) (id : String),
      (v.result n).success = true ∧ (v.result n).requiresInput = false ∧
      (v.result n).isComplete = false ∧ next? setting.graph v.node (v.result n) = some id ∧
      s' = { (v.recorded n).apply (v.result n).updates with prompt := none, current := id } ∧
      n' = v.network n := by
  obtain ⟨e, -, he⟩ | ⟨node, reason, -, -, he⟩ | ⟨⟨v⟩⟩ := turn_cases setting s n
  · rw [he] at h; cases h
  · rw [he] at h; cases h
  · rw [turn_of_visit v] at h
    have hset := settled_settle setting.graph v.node (v.result n) (v.recorded n)
    change Settled _ _ _ _ (v.settled n) at hset
    generalize v.settled n = out at h hset
    -- only a move leaves the run without an outcome
    cases hset with
    | refused | failed | asked | finished | deadEnd => cases h
    | moved id hs hi hc hn =>
      obtain ⟨rfl, rfl⟩ := Prod.mk.inj (Except.ok.inj h)
      exact ⟨v, id, hs, hi, hc, hn, rfl, rfl⟩

/-- A session that ends where it stands has lost its node or has come to
an end node. -/
theorem arrive_error {g : Graph} {e : Session × Outcome} (h : arrive g s = .error e) :
    (g.node? s.current = none ∧ e = s.fail (.nodeNotFound s.current)) ∨
      ∃ node, g.node? s.current = some node ∧ node.isEnd = true ∧
        e = s.complete completedMessage := by
  unfold arrive at h
  split at h
  · next hn => exact .inl ⟨hn, (Except.error.inj h).symm⟩
  · next node hn =>
    split at h
    · next he => exact .inr ⟨node, hn, he, (Except.error.inj h).symm⟩
    · cases h

/-- A node to execute is the one that the session stands on. -/
theorem arrive_ok {g : Graph} {node : Graph.Node} (h : arrive g s = .ok node) :
    g.node? s.current = some node ∧ node.isEnd = false := by
  unfold arrive at h
  split at h
  · cases h
  · next node' hn =>
    split at h
    · cases h
    · next he =>
      obtain rfl := Except.ok.inj h
      exact ⟨hn, Bool.not_eq_true _ ▸ he⟩

/-- A session on a node that is no end comes to that node. -/
theorem arrive_of_node? {g : Graph} {node : Graph.Node} (hn : g.node? s.current = some node)
    (he : node.isEnd = false) : arrive g s = .ok node := by
  simp [arrive, hn, he]

/-- **A node to execute is listed** under the name that the session has
for it. -/
theorem mem_of_arrive_ok {g : Graph} {node : Graph.Node} (h : arrive g s = .ok node) :
    node ∈ g.nodes ∧ node.id = s.current := by
  have hfind : g.nodes.find? (·.id == s.current) = some node := (arrive_ok h).1
  exact ⟨List.mem_of_find?_eq_some hfind, by simpa using List.find?_some hfind⟩

/-! ## What every turn keeps -/

/-- One session is a later state of another: it keeps its names, and its
history goes on from the one before. -/
structure Continues (s t : Session) : Prop where
  /-- The identifier stays. -/
  id : t.id = s.id
  /-- The flow stays. -/
  workflowId : t.workflowId = s.workflowId
  /-- The user stays. -/
  userId : t.userId = s.userId
  /-- The start stays. -/
  createdAt : t.createdAt = s.createdAt
  /-- No step is lost or changed. -/
  history : s.history <+: t.history

theorem Continues.refl (s : Session) : Continues s s :=
  ⟨rfl, rfl, rfl, rfl, List.prefix_refl _⟩

theorem Continues.trans {s t u : Session} (h : Continues s t) (h' : Continues t u) :
    Continues s u :=
  ⟨h'.id.trans h.id, h'.workflowId.trans h.workflowId, h'.userId.trans h.userId,
    h'.createdAt.trans h.createdAt, h.history.trans h'.history⟩

/-- However a turn is settled, the session keeps its names and its
history. -/
theorem Settled.keeps {g : Graph} {node : Graph.Node} {r : Step.Result}
    {out : Session × Option Outcome} (h : Settled g node r s out) :
    out.1.history = s.history ∧ Continues s out.1 := by
  cases h <;> exact ⟨rfl, rfl, rfl, rfl, rfl, List.prefix_refl _⟩

/-- **However a turn is settled, the state changes by the updates of a
step that succeeded**, and by nothing else. -/
theorem Settled.state {g : Graph} {node : Graph.Node} {r : Step.Result}
    {out : Session × Option Outcome} (h : Settled g node r s out) :
    out.1.state = if r.success then s.state.overlay r.updates else s.state := by
  cases h with
  | refused hs | failed hs | asked hs | finished hs | deadEnd hs | moved id hs =>
    rw [hs]
    rfl

theorem Visit.state_settled (v : Visit setting s) (n : Web.Network) :
    (v.settled n).1.state =
      if (v.result n).success then s.state.overlay (v.result n).updates else s.state :=
  (settled_settle ..).state

theorem Visit.continues (v : Visit setting s) : Continues s (v.recorded n) :=
  ⟨rfl, rfl, rfl, rfl, List.prefix_append ..⟩

/-- **A turn that ends the run records at most one step.** -/
theorem of_turn_error (h : turn setting s n = .error run) :
    Continues s run.session ∧
      (run.session.history = s.history ∨
        ∃ v : Visit setting s, run.session.history = s.history ++ [v.entry n]) := by
  obtain ⟨e, ha, he⟩ | ⟨node, reason, -, -, he⟩ | ⟨⟨v⟩⟩ := turn_cases setting s n
  · rw [he] at h
    obtain rfl := Except.error.inj h
    obtain ⟨-, rfl⟩ | ⟨node, -, -, rfl⟩ := arrive_error ha <;>
      exact ⟨⟨rfl, rfl, rfl, rfl, List.prefix_refl _⟩, .inl rfl⟩
  · rw [he] at h
    obtain rfl := Except.error.inj h
    exact ⟨⟨rfl, rfl, rfl, rfl, List.prefix_refl _⟩, .inl rfl⟩
  · obtain ⟨hhist, hcont⟩ :
        (v.settled n).1.history = (v.recorded n).history ∧ Continues _ (v.settled n).1 :=
      (settled_settle setting.graph v.node (v.result n) (v.recorded n)).keeps
    rw [turn_of_visit v] at h
    rcases hset : v.settled n with ⟨t, _ | o⟩ <;> rw [hset] at h hhist hcont
    · cases h
    · obtain rfl := Except.error.inj h
      exact ⟨v.continues.trans hcont, .inr ⟨v, hhist⟩⟩

/-- **A turn that goes on records one step, uses up the answer and keeps
the status.** -/
theorem of_turn_ok (h : turn setting s n = .ok (s', n')) :
    Continues s s' ∧ (∃ v : Visit setting s, s'.history = s.history ++ [v.entry n]) ∧
      s'.input = none ∧ s'.status = s.status := by
  obtain ⟨v, id, -, -, -, -, rfl, -⟩ := visit_of_turn_ok h
  exact ⟨⟨rfl, rfl, rfl, rfl, List.prefix_append ..⟩, ⟨v, rfl⟩, rfl, rfl⟩

/-- **A run continues its session.** -/
theorem continues_run (setting : Setting) (budget : Nat) (s : Session) (n : Web.Network) :
    Continues s (s.run setting budget n).session := by
  refine runFrom_induction (P := fun t _ => Continues s t) (Q := fun r => Continues s r.session)
    ?_ ?_ ?_ budget _ n ⟨rfl, rfl, rfl, rfl, List.prefix_refl _⟩
  · intro t m t' m' hp h
    exact hp.trans (of_turn_ok h).1
  · intro t m r hp h
    exact hp.trans (of_turn_error h).1
  · intro t m hp
    exact hp.trans ⟨rfl, rfl, rfl, rfl, List.prefix_refl _⟩

end Session

end Flowchart
