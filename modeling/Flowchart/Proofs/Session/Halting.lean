import Flowchart.Graph.Validation
import Flowchart.Proofs.Graph.Cycles
import Flowchart.Proofs.Session.Budget
import Flowchart.Proofs.Session.Outside
import Flowchart.Proofs.Source.Config
import Flowchart.Proofs.Step.Moves

/-!
# Acyclic graphs halt

Where every move of a session follows an edge of the graph
(`Setting.FollowsEdges`), the steps that a run records are a walk along
the edges (`walk_runFrom`). In an acyclic graph a walk meets no node
twice, so it is no longer than the graph has nodes, and a budget of that
many steps is never used up.

A compiled graph is such a place, unless a configured branch names the
node it leads to: the branches that come from connections lead where the
edges of the connections lead (`followsEdges_of_compiled`).
-/

namespace Flowchart

namespace Graph

variable {g : Graph} {w : List String}

/-- **A walk in an acyclic graph meets no node twice.** -/
theorem Acyclic.nodup (hg : g.Acyclic) (hw : w.IsChain g.Leads) : w.Nodup := by
  have onward : w.Pairwise (Relation.TransGen g.Leads) :=
    List.isChain_iff_pairwise.1 (hw.imp fun _ _ => .single)
  refine onward.imp fun {a b} hab heq => ?_
  exact hg a (heq ▸ hab)

/-- Nothing is reported on cycles where nothing warns of them. -/
theorem acyclic_of_validate (h : ∀ f ∈ g.validate.warnings, f.code ≠ .circularDependency) :
    g.Acyclic := by
  refine cycles_eq_nil_iff.1 (List.eq_nil_iff_forall_not_mem.2 fun c hc => ?_)
  have warned : (⟨.circularDependency,
      "Workflow contains a circular dependency: " ++ Cycle.render c, none⟩ : Finding) ∈
        g.validate.warnings := by
    have hmem := List.mem_map_of_mem (f := fun c : Cycle => (⟨.circularDependency,
      "Workflow contains a circular dependency: " ++ Cycle.render c, none⟩ : Finding)) hc
    simp only [validate, warnings, List.mem_append]
    exact .inl (.inr hmem)
  exact h _ warned rfl

end Graph

namespace Session

variable {setting : Setting} {s s' : Session} {n n' : Web.Network}

/-- **Every turn that goes on follows an edge of the graph.** -/
def Setting.FollowsEdges (setting : Setting) : Prop :=
  ∀ s n s' n', turn setting s n = .ok (s', n') → setting.graph.Leads s.current s'.current

/-- **Steps are a walk along the edges** from a node, which may go on by
nodes where no step was taken yet. -/
structure WalksFrom (g : Graph) (start : String) (es : List Entry) (w : List String) :
    Prop where
  /-- The steps are taken along the walk. -/
  steps : es.map (·.nodeId) <+: w
  /-- Each node leads to the next one. -/
  chain : w.IsChain g.Leads
  /-- It begins here, if anywhere. -/
  head : ∀ a ∈ w.head?, a = start
  /-- Its nodes are listed. -/
  listed : w ⊆ g.nodes.map (·.id)

namespace WalksFrom

variable {g : Graph} {start next : String} {es : List Entry} {e : Entry} {w : List String}

theorem nil : WalksFrom g start [] [] :=
  ⟨List.prefix_refl _, List.isChain_nil, by simp, by simp⟩

/-- The walk that has come no further than its first node. -/
theorem here (h : start ∈ g.nodes.map (·.id)) (hes : es.map (·.nodeId) <+: [start]) :
    WalksFrom g start es [start] :=
  ⟨hes, List.isChain_singleton start, fun _ ha => (Option.some.inj ha).symm,
    fun _ ha => List.mem_singleton.1 ha ▸ h⟩

/-- A step along an edge goes in front of a walk from its end. -/
theorem cons (he : e.nodeId = start) (hedge : g.Leads start next) (h : WalksFrom g next es w) :
    WalksFrom g start (e :: es) (start :: w) where
  steps := by
    rw [List.map_cons, he]
    exact List.cons_prefix_cons.2 ⟨rfl, h.steps⟩
  chain := List.isChain_cons.2 ⟨fun a ha => h.head a ha ▸ hedge, h.chain⟩
  head _ ha := (Option.some.inj ha).symm
  listed := List.cons_subset.2 ⟨hedge.mem_ids, h.listed⟩

/-- **In an acyclic graph no node is met twice**, so a walk is no longer
than the graph has nodes. -/
theorem bounded (hg : g.Acyclic) (h : WalksFrom g start es w) :
    (es.map (·.nodeId)).Nodup ∧ es.length ≤ w.length ∧ w.length ≤ g.nodes.length := by
  have once : w.Nodup := hg.nodup h.chain
  refine ⟨once.sublist h.steps.sublist, by simpa using h.steps.length_le, ?_⟩
  simpa using (List.subperm_of_subset once h.listed).length_le

end WalksFrom

/-- The node of a visit is listed, and the step is recorded under it. -/
theorem Visit.nodeId_entry (v : Visit setting s) (n : Web.Network) :
    (v.entry n).nodeId = s.current ∧ s.current ∈ setting.graph.nodes.map (·.id) := by
  obtain ⟨hmem, hid⟩ := mem_of_arrive_ok v.arrived
  exact ⟨hid, hid ▸ List.mem_map_of_mem hmem⟩

/-- **The steps that a run records are a walk along the edges**, from
where the session stands. A run that is cut off has one more node ahead
of it, so its walk is longer than its budget. The induction is on the
steps that are left. -/
theorem walk_runFrom (h : setting.FollowsEdges) (budget left : Nat) (s : Session)
    (n : Web.Network) :
    ∃ es w, (runFrom setting budget left s n).session.history = s.history ++ es ∧
      WalksFrom setting.graph s.current es w ∧
      ((runFrom setting budget left s n).outcome.IsCut → left < w.length) := by
  induction left generalizing s n with
  | zero =>
    cases ha : arrive setting.graph s with
    | error e =>
      have hcut : ¬ (Run.of e n).outcome.IsCut := not_isCut_of_arrive_error ha
      rw [runFrom_of_arrive_error ha]
      refine ⟨[], [], ?_, .nil, fun hc => absurd hc hcut⟩
      rw [List.append_nil]
      obtain ⟨-, rfl⟩ | ⟨node, -, -, rfl⟩ := arrive_error ha <;> rfl
    | ok node =>
      rw [runFrom_zero ha]
      have listed : s.current ∈ setting.graph.nodes.map (·.id) :=
        List.mem_map.2 ⟨node, mem_of_arrive_ok ha⟩
      exact ⟨[], [s.current], (List.append_nil _).symm, .here listed (List.nil_prefix),
        fun _ => Nat.one_pos⟩
  | succ left ih =>
    cases ht : turn setting s n with
    | error run =>
      rw [runFrom_of_turn_error ht]
      have hcut := not_isCut_of_turn_error ht
      obtain ⟨-, hhist | ⟨v, hhist⟩⟩ := of_turn_error ht
      · exact ⟨[], [], by rw [hhist, List.append_nil], .nil, fun hc => absurd hc hcut⟩
      · obtain ⟨hid, listed⟩ := v.nodeId_entry n
        exact ⟨[v.entry n], [s.current], hhist, .here listed (by simp [hid]),
          fun hc => absurd hc hcut⟩
    | ok p =>
      rw [runFrom_of_turn_ok ht]
      obtain ⟨-, ⟨v, hhist⟩, -, -⟩ := of_turn_ok ht
      obtain ⟨es, w, hes, hwalk, hcut⟩ := ih p.1 p.2
      refine ⟨v.entry n :: es, s.current :: w, ?_,
        .cons (v.nodeId_entry n).1 (h s n p.1 p.2 ht) hwalk, fun hc => ?_⟩
      · rw [hes, hhist, List.append_assoc]
        rfl
      · rw [List.length_cons]
        exact Nat.succ_lt_succ (hcut hc)

end Session

/-! ## Compiled graphs -/

/-- The branches that a node of a source configures, if they can be
read. -/
def Source.Node.branches (n : Source.Node) : List Step.Branch :=
  match Step.Branch.readList? { entries := n.common.extra } "branches" Step.Branch.decoder with
  | .ok (some branches) => branches
  | _ => []

/-- **No configured branch names the node it leads to.** -/
def Source.NamesNoTargets (source : Source) : Prop :=
  ∀ n ∈ source.nodes, ∀ b ∈ n.2.branches, b.target = none

instance (source : Source) : Decidable source.NamesNoTargets :=
  inferInstanceAs (Decidable (∀ n ∈ source.nodes, ∀ b ∈ n.2.branches, b.target = none))

namespace Graph

variable {g : Graph} {ids : Nat → Uuid} {workflowId : Uuid} {source : Source} {id : String}

/-- The way out of a listed node is an edge that leads on. -/
theorem leads_of_wayOut? {node : Node} {port : Option String} {e : Edge} (hn : node ∈ g.nodes)
    (h : g.wayOut? node.id port = some e) : g.Leads node.id e.target := by
  obtain ⟨he, hsource⟩ := List.mem_filter.1 (List.mem_of_find?_eq_some h)
  exact ⟨⟨node, hn, rfl⟩, e, he, by simpa using hsource, rfl⟩

/-- **Every connection of a source is an edge of its graph.** -/
theorem leads_of_connection {m : String × Source.Node} {c : Source.Connection}
    (hm : m ∈ source.nodes) (hc : c ∈ m.2.common.connections) :
    (ofSource ids workflowId source).Leads m.1 c.target := by
  refine ⟨⟨_, List.mem_map_of_mem hm, rfl⟩, ?_⟩
  have hmem : (m.1, c) ∈ connections source :=
    List.mem_flatMap.2 ⟨m, hm, List.mem_map_of_mem hc⟩
  obtain ⟨i, hi, heq⟩ := List.mem_iff_getElem.1 hmem
  refine ⟨_, List.mem_mapIdx.2 ⟨i, hi, rfl⟩, ?_⟩
  rw [heq]
  exact ⟨rfl, rfl⟩

end Graph

namespace Session

variable {ids : Nat → Uuid} {workflowId : Uuid} {source : Source} {text : String}

/-- **In a compiled graph every turn follows an edge**, unless a
configured branch names a node. -/
theorem followsEdges_of_compiled (ids : Nat → Uuid) (workflowId : Uuid)
    (htext : Source.ofText? text = .ok source) (htargets : source.NamesNoTargets) (clock : Clock) :
    Setting.FollowsEdges
      { graph := .ofSource ids workflowId source, registry := .builtIn, clock } := by
  intro s n s' n' h
  obtain ⟨v, id, -, -, -, hnext, rfl, -⟩ := visit_of_turn_ok h
  obtain ⟨hmem, hid⟩ := mem_of_arrive_ok v.arrived
  change Graph.Leads _ s.current id
  rw [← hid]
  unfold next? at hnext
  split at hnext
  -- the step names the next node: it was a choice, and took one of its branches
  · next target htarget =>
    obtain rfl := Option.some.inj hnext
    obtain ⟨hresolve, hconfig⟩ := prepare_ok v.prepared
    obtain ⟨branches, b, hbranches, hb, hbt⟩ :=
      Step.nextNode_of_resolve?_builtIn hresolve htarget
    obtain ⟨m, hm, hnode⟩ := List.mem_map.1 hmem
    rw [← hnode] at hconfig ⊢
    obtain hlist | rfl :=
      Graph.Node.branches_of_config? (Source.keyed_of_ofText? htext m hm) hconfig hbranches
    · have hconfigured : m.2.branches = branches := by rw [Source.Node.branches, hlist]
      rw [htargets m hm b (hconfigured ▸ hb)] at hbt
      cases hbt
    -- the branches are the connections, each of which is an edge
    · obtain ⟨c, hc, rfl⟩ := List.mem_map.1 hb
      obtain rfl := Option.some.inj hbt
      exact Graph.leads_of_connection hm hc
  -- the step names none: the session leaves through an edge
  · obtain ⟨e, he, rfl⟩ := Option.map_eq_some_iff.1 hnext
    exact Graph.leads_of_wayOut? hmem he

/-- **An acyclic graph halts.** In a compiled graph where no configured
branch names a node and nothing warns of a cycle, a run with the built-in
executors executes no node twice, so it records at most as many steps as
the graph has nodes, and a budget of that many steps never cuts it
off. -/
theorem halts_of_acyclic {g : Graph} (hg : Graph.ofText? ids workflowId text = .ok g)
    (htargets : ∀ source, Source.ofText? text = .ok source → source.NamesNoTargets)
    (hwarn : ∀ f ∈ g.validate.warnings, f.code ≠ .circularDependency)
    (clock : Clock) (s : Session) (n : Web.Network) (budget : Nat) :
    let r := s.run { graph := g, registry := .builtIn, clock } budget n
    ∃ es, r.session.history = s.history ++ es ∧
      (es.map (·.nodeId)).Nodup ∧ es.length ≤ g.nodes.length ∧
      (g.nodes.length ≤ budget → ¬ r.outcome.IsCut) := by
  obtain ⟨source, htext, rfl⟩ := map_eq_ok_iff.1 hg
  have follows := followsEdges_of_compiled ids workflowId htext (htargets source htext) clock
  obtain ⟨es, w, hes, hwalk, hcut⟩ :=
    walk_runFrom follows budget budget { s with status := .running } n
  obtain ⟨once, hlength, hlisted⟩ := hwalk.bounded (Graph.acyclic_of_validate hwarn)
  refine ⟨es, hes, once, hlength.trans hlisted, fun hbudget hc => ?_⟩
  have := hcut hc
  omega

/-- A choice between the end and a way round to it. -/
def forkText : String :=
  "\x7b\"a\":\x7b\"type\":\"condition\",\"weight\":5,\"to\":[" ++
  "\x7b\"id\":\"b\",\"prompt\":\"x\"\x7d,\x7b\"id\":\"c\"\x7d]\x7d," ++
  "\"b\":\x7b\"type\":\"trigger\",\"to\":[\x7b\"id\":\"c\"\x7d]\x7d," ++
  "\"c\":\x7b\"type\":\"End\"\x7d\x7d"

/-- The source of that flow. -/
def forkSource : Source where
  nodes := [
    ("a", {
      detail := .condition
      common := {
        connections := [{ target := "b", label := some "x" }, { target := "c" }]
        extra := [("weight", .ofInt 5)] } }),
    ("b", { detail := .trigger "", common := { connections := [{ target := "c" }] } }),
    ("c", { detail := .custom "End" })]

/-- The graph of that flow. -/
def forkGraph : Graph :=
  .ofSource (fun _ => .nil) .nil forkSource

/-- A session of that flow. -/
def forkSession : Session :=
  start "fork" .nil "" "a" .empty .epoch

/-- **The flow with a choice halts** within a budget of its nodes. -/
theorem forkGraph_halts :
    Graph.ofText? (fun _ => .nil) .nil forkText = .ok forkGraph ∧
      forkGraph.nodes.length = 3 ∧
      ¬ (forkSession.run { graph := forkGraph, registry := .builtIn, clock := default } 3
        {}).outcome.IsCut := by
  have hsource : Source.ofText? forkText = .ok forkSource := by decide +kernel
  have hgraph : Graph.ofText? (fun _ => .nil) .nil forkText = .ok forkGraph := by
    rw [Graph.ofText?, hsource]
    rfl
  have htargets : ∀ source, Source.ofText? forkText = .ok source → source.NamesNoTargets := by
    intro source h
    obtain rfl := Except.ok.inj (hsource.symm.trans h)
    decide +kernel
  have hwarn : ∀ f ∈ forkGraph.validate.warnings, f.code ≠ .circularDependency := by
    decide +kernel
  have hsize : forkGraph.nodes.length = 3 := by decide +kernel
  obtain ⟨es, -, -, -, hcut⟩ :=
    halts_of_acyclic hgraph htargets hwarn default forkSession {} 3
  exact ⟨hgraph, hsize, hcut (Nat.le_of_eq hsize)⟩

end Session

end Flowchart
