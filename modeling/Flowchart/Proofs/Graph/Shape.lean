import Flowchart.Proofs.Graph.Payload
import Flowchart.Proofs.Step.Choice

/-!
# Valid graphs have the shape that their steps ask for

Validation reads the configuration of every node once, by the kind of the
node; a run reads it again through the executor that the registry has for
the kind. The two agree: conditions are the nodes of two kinds and calls
those of one (`resolve?_builtIn_eq_choice_iff`,
`resolve?_builtIn_eq_call_iff`), and what validation does not report
their executors can read (`Node.shaped_of_isValid`). So a step of a valid
graph fails for what it finds, never for the shape of its configuration
(`valid_steps_are_shaped`).
-/

namespace Flowchart

namespace Step

variable {kind : String} {x : Executor} {input : Input} {n : Web.Network}

/-! ## Which nodes are conditions, calls and questions -/

/-- The kinds that are built in with the families of their executors. -/
def families : List (String × String) :=
  Registry.builtIn.executors.map fun e => (e.1, e.2.family)

/-- **A node that is not executed as a start** is so by its own kind. -/
theorem mem_families_of_resolve? (h : Registry.builtIn.resolve? kind = some x)
    (hx : x.family ≠ "Start") : (kind, x.family) ∈ families := by
  rcases Registry.mem_of_resolve? h with h | h
  · exact List.mem_map.2 ⟨_, h, rfl⟩
  · have hstart : ("StartNode", x.family) ∈ families := List.mem_map.2 ⟨_, h, rfl⟩
    have hother : ∀ f ∈ families, f.1 = "StartNode" → f.2 = "Start" := by decide
    exact absurd (hother _ hstart rfl) hx

/-- **The conditions** are the nodes of two kinds. -/
theorem resolve?_builtIn_eq_choice_iff :
    Registry.builtIn.resolve? kind = some choice ↔ kind = "ConditionNode" ∨ kind = "condition" := by
  constructor
  · intro h
    have hfamily := mem_families_of_resolve? h (by decide)
    have hkinds : ∀ f ∈ families, f.2 = "Condition" →
        f.1 = "ConditionNode" ∨ f.1 = "condition" := by
      decide
    exact hkinds _ hfamily rfl
  · rintro (rfl | rfl) <;> rfl

/-- **The calls** are the nodes of one kind. -/
theorem resolve?_builtIn_eq_call_iff :
    Registry.builtIn.resolve? kind = some call ↔ kind = callKind := by
  constructor
  · intro h
    have hfamily := mem_families_of_resolve? h (by decide)
    have hkinds : ∀ f ∈ families, f.2 = "API call" → f.1 = callKind := by decide
    exact hkinds _ hfamily rfl
  · rintro rfl
    rfl

/-- **The questions** are the nodes of one kind. -/
theorem resolve?_builtIn_eq_question_iff :
    Registry.builtIn.resolve? kind = some question ↔ kind = "QuestionNode" := by
  constructor
  · intro h
    have hfamily := mem_families_of_resolve? h (by decide)
    have hkinds : ∀ f ∈ families, f.2 = "Question" → f.1 = "QuestionNode" := by decide
    exact hkinds _ hfamily rfl
  · rintro rfl
    rfl

/-! ## Why a condition fails that has branches -/

/-- **A condition fails for its state**: a condition that was tested has
no truth value, or none holds and no branch is left for that case. -/
inductive Choice.Fails (state : StateMap) (branches : List Branch) : Result → Prop where
  /-- A condition has no truth value. -/
  | undecided {e : Condition.Error} (h : firstHolding? state branches = .error e) :
    Fails state branches (choice.conclude (.error (.condition e)))
  /-- No condition holds. -/
  | unmatched (h : firstHolding? state branches = .ok none)
    (hd : ∀ b ∈ branches, b.isDefault = false) : Fails state branches (.failed noMatch)

/-- A condition whose branches are read fails for its state only. -/
theorem Choice.fails_of_branches {branches : List Branch}
    (hbranches : Branch.ofConfig? input.config = .ok branches)
    (hs : (choice.execute input n).1.success = false) :
    Fails input.state branches (choice.execute input n).1 := by
  rw [execute_of_branches hbranches] at hs ⊢
  cases hchosen : choose input.state branches with
  | error e =>
    have hfirst : firstHolding? input.state branches = .error e := by
      unfold choose at hchosen
      cases hfirst : firstHolding? input.state branches with
      | error e' =>
        rw [hfirst] at hchosen
        rw [Except.error.inj hchosen]
      | ok taken? =>
        rw [hfirst] at hchosen
        cases hchosen
    exact .undecided hfirst
  | ok r =>
    rw [hchosen] at hs
    replace hs : r.success = false := hs
    obtain ⟨taken?, hfirst, hr⟩ := map_eq_ok_iff.1 hchosen
    cases taken? with
    | some b =>
      rw [← hr] at hs
      cases hs
    | none =>
      simp only at hr
      split at hr
      · rw [← hr] at hs
        cases hs
      · next hdefault =>
        have hd : ∀ b ∈ branches, b.isDefault = false := by
          simpa using List.find?_eq_none.1 hdefault
        exact hr ▸ .unmatched hfirst hd

/-! ## Why a call fails that has an address -/

/-- **A call fails for something other than its address**: a part of the
request behind it is wrong, there is no answer, or the answer does not
grant the request. -/
inductive Call.Fails (input : Input) : Result → Prop where
  /-- Requests are not sent by the method. -/
  | method {e : Error}
    (h : (configured (input.config.textOr "method" "GET")).bind method? = .error e) :
    Fails input (call.conclude (.error e))
  /-- The variable for the answer is no text. -/
  | key {e : Error}
    (h : configured (input.config.textOr "responseStateKey" defaultKey) = .error e) :
    Fails input (call.conclude (.error e))
  /-- The headers are wrong. -/
  | headers {e : Error}
    (h : (configured (input.config.section? "headers")).bind
      (fun names => headers names input.state names.keys .empty) = .error e) :
    Fails input (call.conclude (.error e))
  /-- The body is no object. -/
  | body {e : Error} (h : configured (input.config.object? "bodyMapping") = .error e) :
    Fails input (call.conclude (.error e))
  /-- There is no answer. -/
  | unanswered : Fails input (call.conclude (.error .request))
  /-- The answer does not grant the request. -/
  | refused {r : Web.Request} {key : String} {a : Web.Response} (h : a.isSuccess = false) :
    Fails input (answered r key a)

/-- A request that has an address is wrong in another part only. -/
theorem Call.fails_of_request {url : String} {e : Error}
    (hurl : input.config.text? "apiUrl" = .ok (some url))
    (h : request input.config input.state = .error e) :
    Fails input (call.conclude (.error e)) := by
  unfold request at h
  rw [hurl] at h
  -- the request is put together in the order of its parts
  replace h : (configured (input.config.textOr "method" "GET")).bind _ = .error e := h
  rcases bind_eq_error_iff.1 h with h | ⟨text, htext, h⟩
  · exact .method (bind_eq_error_iff.2 (.inl h))
  rcases bind_eq_error_iff.1 h with h | ⟨method, -, h⟩
  · exact .method (bind_eq_error_iff.2 (.inr ⟨text, htext, h⟩))
  rcases bind_eq_error_iff.1 h with h | ⟨key, -, h⟩
  · exact .key h
  rcases bind_eq_error_iff.1 h with h | ⟨names, hnames, h⟩
  · exact .headers (bind_eq_error_iff.2 (.inl h))
  rcases bind_eq_error_iff.1 h with h | ⟨headers, -, h⟩
  · exact .headers (bind_eq_error_iff.2 (.inr ⟨names, hnames, h⟩))
  split at h
  · rcases bind_eq_error_iff.1 h with h | ⟨mapping, -, h⟩
    · exact .body h
    · cases h
  · cases h

/-- A call that has an address fails for something else only. -/
theorem Call.fails_of_address {url : String}
    (hurl : input.config.text? "apiUrl" = .ok (some url))
    (hs : (call.execute input n).1.success = false) : Fails input (call.execute input n).1 := by
  have hrun : (call.execute input n).1 = call.conclude (run input n).1 := rfl
  rw [hrun] at hs ⊢
  unfold run at hs ⊢
  split at hs
  · next e he =>
    exact fails_of_request hurl he
  · next r key hr =>
    split at hs
    · next a n' hsend => exact .refused hs
    · exact .unanswered

end Step

/-! ## What validation promises -/

/-- **A configuration has the shape that a kind of node asks for**: a
condition has branches and a call has an address. -/
structure NodeConfig.Shaped (c : NodeConfig) (kind : String) : Prop where
  /-- A condition has branches that can be read. -/
  branches : Step.Registry.builtIn.resolve? kind = some Step.choice →
    ∃ branches, Step.Branch.ofConfig? c = .ok branches ∧ branches ≠ []
  /-- A call has an address that is a text and not blank. -/
  address : Step.Registry.builtIn.resolve? kind = some Step.call →
    ∃ url, c.text? "apiUrl" = .ok (some url) ∧ Text.allBlank url = false

namespace Graph

variable {g : Graph} {node : Node}

/-- A text that does not lack is there. -/
theorem exists_of_lacksText {c : NodeConfig} {key : String} (h : lacksText c key = false) :
    ∃ text, c.text? key = .ok (some text) ∧ Text.allBlank text = false := by
  unfold lacksText at h
  split at h
  · next text htext => exact ⟨text, htext, h⟩
  · cases h

/-- Branches that do not lack are there. -/
theorem exists_of_lacksBranches {c : NodeConfig} (h : lacksBranches c = false) :
    ∃ branches, Step.Branch.ofConfig? c = .ok branches ∧ branches ≠ [] := by
  unfold lacksBranches at h
  split at h
  · next branches hbranches => exact ⟨branches, hbranches, by simpa using h⟩
  · cases h

/-- A node without errors has a configuration that can be read, of the
shape that its kind asks for. -/
theorem Node.shaped_of_configErrors (h : node.configErrors = []) :
    ∃ c, node.config? = .ok c ∧ c.Shaped node.kind := by
  unfold configErrors at h
  split at h
  · cases h
  · next c hc =>
    refine ⟨c, hc, fun hchoice => ?_, fun hcall => ?_⟩
    · have hkind := Step.resolve?_builtIn_eq_choice_iff.1 hchoice
      refine exists_of_lacksBranches (Bool.eq_false_iff.2 fun hlacks => ?_)
      rw [if_neg, if_pos ⟨hkind, hlacks⟩] at h
      · cases h
      · rintro ⟨hcall, -⟩
        rw [hcall] at hkind
        exact absurd hkind (by decide)
    · have hkind : node.kind = "APICallNode" := Step.resolve?_builtIn_eq_call_iff.1 hcall
      refine exists_of_lacksText (Bool.eq_false_iff.2 fun hlacks => ?_)
      rw [if_pos ⟨hkind, hlacks⟩] at h
      cases h

/-- A valid graph has no errors. -/
theorem errors_eq_nil (h : g.validate.isValid = true) : g.errors = [] :=
  List.isEmpty_iff.1 h

/-- **The nodes of a valid graph** have configurations of the shape that
their kinds ask for. -/
theorem Node.shaped_of_isValid (h : g.validate.isValid = true) (hnode : node ∈ g.nodes) :
    ∃ c, node.config? = .ok c ∧ c.Shaped node.kind := by
  have herrors := errors_eq_nil h
  rw [errors, List.append_eq_nil_iff] at herrors
  exact shaped_of_configErrors (List.flatMap_eq_nil_iff.1 herrors.2 node hnode)

/-- **A valid graph has a start**, which is one of its start nodes. -/
theorem exists_start_of_isValid (h : g.validate.isValid = true) :
    ∃ node ∈ g.nodes, g.start? = some node ∧ node.isStart = true := by
  have herrors := errors_eq_nil h
  rw [errors, List.append_eq_nil_iff, List.append_eq_nil_iff] at herrors
  have hany : g.nodes.any (·.isStart) = true := by
    by_contra hnone
    have hstart := herrors.1.1
    rw [startErrors, if_neg hnone] at hstart
    cases hstart
  obtain ⟨m, hm, hstart⟩ := List.any_eq_true.1 hany
  obtain ⟨node, hfind⟩ := Option.isSome_iff_exists.1 (List.find?_isSome.2 ⟨m, hm, hstart⟩)
  exact ⟨node, List.mem_of_find?_eq_some hfind, by rw [start?, hfind]; rfl,
    List.find?_some hfind⟩

end Graph

namespace Session

/-- **A step is not at fault for its shape**: its configuration has the
shape that its node asks for, and where it fails as a condition or as a
call it does so for something else. -/
structure Taken.Shaped (p : Taken) : Prop where
  /-- The configuration has its shape. -/
  config : p.input.config.Shaped p.node.kind
  /-- A condition fails for its state. -/
  choice : Step.Registry.builtIn.resolve? p.node.kind = some Step.choice →
    p.result.success = false → ∃ branches, Step.Branch.ofConfig? p.input.config = .ok branches ∧
      branches ≠ [] ∧ Step.Choice.Fails p.input.state branches p.result
  /-- A call fails for something other than its address. -/
  call : Step.Registry.builtIn.resolve? p.node.kind = some Step.call →
    p.result.success = false → Step.Call.Fails p.input p.result

variable {g : Graph} {clock : Clock} {p : Taken}

/-- **A genuine step in a valid graph** is not at fault for its shape. -/
theorem Taken.Genuine.shaped (h : p.Genuine ⟨g, .builtIn, clock⟩)
    (hvalid : g.validate.isValid = true) : p.Shaped := by
  obtain ⟨c, hc, hshaped⟩ := Graph.Node.shaped_of_isValid hvalid (List.mem_of_find?_eq_some h.found)
  obtain rfl : c = p.input.config := Except.ok.inj (hc.symm.trans h.configured)
  obtain ⟨x, hx, hmade⟩ := h.made
  have hresult : (x.execute p.input p.before).1 = p.result := congrArg Prod.fst hmade
  refine ⟨hshaped, fun hchoice hs => ?_, fun hcall hs => ?_⟩
  · obtain rfl : Step.choice = x := Option.some.inj (hchoice.symm.trans hx)
    obtain ⟨branches, hbranches, hne⟩ := hshaped.branches hchoice
    rw [← hresult] at hs ⊢
    exact ⟨branches, hbranches, hne, Step.Choice.fails_of_branches hbranches hs⟩
  · obtain rfl : Step.call = x := Option.some.inj (hcall.symm.trans hx)
    obtain ⟨url, hurl, -⟩ := hshaped.address hcall
    rw [← hresult] at hs ⊢
    exact Step.Call.fails_of_address hurl hs

/-- **A valid graph never fails for the shape of its configurations.** It
has a start, and whatever session is run in it, with whatever answer and
outside, the run does not end at a node whose configuration cannot be
read, and no step that it records is at fault for its shape. -/
theorem valid_steps_are_shaped (hvalid : g.validate.isValid = true) :
    (∃ node ∈ g.nodes, g.start? = some node ∧ node.isStart = true) ∧
    ∀ (clock : Clock) (s : Session) (budget : Nat) (n : Web.Network),
      let setting : Setting := { graph := g, registry := .builtIn, clock }
      let steps := s.steps setting budget n
      let r := s.run setting budget n
      r.session.history = s.history ++ steps.map (·.entry clock) ∧
      (∀ p ∈ steps, p.Genuine setting ∧ p.Shaped) ∧
      ∀ id reason, r.outcome ≠ .failed (.invalidNodeConfig id reason) := by
  refine ⟨Graph.exists_start_of_isValid hvalid, fun clock s budget n => ?_⟩
  intro setting steps r
  have course : Course setting budget { s with status := .running } n steps r :=
    course_run setting budget s n
  refine ⟨course.history, fun p hp => ?_, fun id reason hfailed => ?_⟩
  · have hgenuine := course.genuine p hp
    exact ⟨hgenuine, hgenuine.shaped hvalid⟩
  · obtain ⟨node, hnode, he⟩ := exists_of_invalidNodeConfig hfailed
    obtain ⟨c, hc, -⟩ := Graph.Node.shaped_of_isValid hvalid hnode
    cases he.symm.trans hc

/-! ## A call without an answer behind a condition -/

/-- A start of a kind of its own, a condition, a call and an end. -/
def gateGraph : Graph where
  nodes := [
    { workflowId := .nil, id := "s", kind := "QuickStart" },
    { workflowId := .nil, id := "c", kind := "condition", payload :=
      "\x7b\"branches\":[\x7b\"condition\":\"go == yes\",\"port\":\"p\"\x7d]\x7d" },
    { workflowId := .nil, id := "a", kind := "APICallNode", payload :=
      "\x7b\"apiUrl\":\"http://x/\"\x7d" },
    { workflowId := .nil, id := "e", kind := "EndNode" }]
  edges := [
    { workflowId := .nil, id := .nil, source := "s", target := "c" },
    { workflowId := .nil, id := .nil, source := "c", target := "a", sourcePort := some "p" },
    { workflowId := .nil, id := .nil, source := "a", target := "e" }]

/-- The flow at the start of 1970. -/
def gateSetting : Setting where
  graph := gateGraph
  registry := .builtIn
  clock := { now := .epoch, stamp := "" }

/-- A session of that flow whose condition holds. -/
def gateSession : Session :=
  start "gate" .nil "" "s" (.ofEntries [("go", .string "yes")]) .epoch

/-- **The call fails for want of an answer**, not for its address, and the
condition in front of it has branches. -/
theorem gate_steps_are_shaped :
    gateGraph.validate.isValid = true ∧
      (gateSession.steps gateSetting 9 {}).map (·.node.id) = ["s", "c", "a"] ∧
      (∀ p ∈ gateSession.steps gateSetting 9 {}, p.Shaped) ∧
      ∃ p ∈ (gateSession.steps gateSetting 9 {}).getLast?, Step.Call.Fails p.input p.result := by
  have hvalid : gateGraph.validate.isValid = true := by decide +kernel
  obtain ⟨-, hruns⟩ := valid_steps_are_shaped hvalid
  obtain ⟨-, hsteps, -⟩ := hruns gateSetting.clock gateSession 9 {}
  obtain ⟨p, hp⟩ : ∃ p, (gateSession.steps gateSetting 9 {}).getLast? = some p :=
    Option.isSome_iff_exists.1 (by decide +kernel)
  have hkind : p.node.kind = "APICallNode" :=
    eq_of_map_eq_some (f := (·.node.kind)) hp (by decide +kernel)
  have hfailed : p.result.success = false :=
    eq_of_map_eq_some (f := (·.result.success)) hp (by decide +kernel)
  refine ⟨hvalid, by decide +kernel, fun p hp => (hsteps p hp).2, p, hp, ?_⟩
  exact (hsteps p (List.mem_of_getLast? hp)).2.call (by rw [hkind]; rfl) hfailed

end Session

end Flowchart
