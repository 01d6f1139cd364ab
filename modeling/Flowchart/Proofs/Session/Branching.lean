import Flowchart.Proofs.Graph.Outgoing
import Flowchart.Proofs.Session.Turn
import Flowchart.Proofs.Source.Config
import Flowchart.Proofs.Step.Choice

/-!
# Sessions follow the branch that is taken

A session on a condition node goes on where the branch that is taken
leads (`moves_of_takes`). Branches that are derived from connections lead
where these lead, whatever ports and labels the connections share: the
branch, the connection and the edge of a graph stand at the same place
(`forall₂_edges_of_derived`), and the edge leaves through the port of the
branch if that is not empty.
-/

namespace Flowchart

open Step (Branch Choice.Takes Choice.LeavesBy)

namespace Step.Branch

variable {c : NodeConfig} {branches : List Branch} {cs : List Source.Connection}

/-- **The branches of a configuration are derived** from connections: it
lists none of its own. -/
structure Derived (c : NodeConfig) (cs : List Source.Connection) : Prop where
  /-- There is no list of branches. -/
  unlisted : readList? c "branches" decoder = .ok none
  /-- The connections are those that are listed, if there is a list. -/
  listed : ∃ cs?, readList? c "to" Source.Connection.decoder = .ok cs? ∧ cs?.getD [] = cs

/-- **Branches are listed or derived.** -/
theorem listed_or_derived (h : ofConfig? c = .ok branches) :
    readList? c "branches" decoder = .ok (some branches) ∨
      ∃ cs, Derived c cs ∧ branches = cs.map ofConnection := by
  obtain ⟨listed?, hlisted, h⟩ := bind_eq_ok_iff.1 h
  cases listed? with
  | some listed =>
    obtain rfl := Except.ok.inj h
    exact .inl hlisted
  | none =>
    obtain ⟨cs?, hcs, h⟩ := bind_eq_ok_iff.1 h
    exact .inr ⟨_, ⟨hlisted, cs?, hcs, rfl⟩, (Except.ok.inj h).symm⟩

/-- A port that is not empty is that of the edge. -/
theorem portOf_eq (k : Source.Connection) (h : (ofConnection k).port ≠ "") :
    Graph.portOf k = some (ofConnection k).port := by
  obtain ⟨target, label, sourcePort, targetPort⟩ := k
  cases sourcePort with
  | some port => rfl
  | none =>
    cases label with
    | some label => simpa [Graph.portOf, ofConnection] using h
    | none => exact absurd rfl h

end Step.Branch

namespace Graph

variable {ids : Nat → Uuid} {workflowId : Uuid} {text : String} {source : Source}
variable {m : String × Source.Node} {c : NodeConfig} {cs : List Source.Connection}

/-- The edge is that of a branch that is derived from a connection: it
leads where the connection leads, and leaves through the port of the
branch if that is not empty. -/
def Edge.IsOfBranch (e : Edge) (k : Source.Connection) : Prop :=
  e.target = k.target ∧
    ((Branch.ofConnection k).port ≠ "" → e.sourcePort = some (Branch.ofConnection k).port)

/-- **Derived branches and edges stand at the same places.** -/
theorem forall₂_edges_of_derived (htext : Source.ofText? text = .ok source) (hm : m ∈ source.nodes)
    (hc : (Node.ofSource workflowId m.1 m.2).config? = .ok c) (hderived : Branch.Derived c cs) :
    cs = m.2.common.connections ∧
    List.Forall₂ Edge.IsOfBranch ((ofSource ids workflowId source).outgoing m.1) cs := by
  have hkeyed := Source.keyed_of_ofText? htext m hm
  obtain ⟨cs?, hcs, rfl⟩ := hderived.listed
  have hto := (Node.readList?_config_iff Json.blind_connection hkeyed hc).2 m.2.readList?_to
  obtain rfl := Except.ok.inj (hcs.symm.trans hto)
  refine ⟨rfl, (forall₂_outgoing (Source.nodup_ids_of_ofText? htext) hm).imp ?_⟩
  rintro e k ⟨id, rfl⟩
  exact ⟨rfl, Branch.portOf_eq k⟩

end Graph

namespace Session

variable {setting : Setting} {s : Session} {n : Web.Network} {c : NodeConfig}
variable {branches : List Branch} {i : Nat} {b : Branch} {id : String}

/-- A session has come to a condition node with a configuration. -/
def ChoiceAt (setting : Setting) (s : Session) (c : NodeConfig) : Prop :=
  ∃ node, arrive setting.graph s = .ok node ∧
    prepare setting.registry node = .ok (Step.choice, c)

/-- **In the graph of a source** a session comes to the condition node that
it stands on. -/
theorem choiceAt_of_source {ids : Nat → Uuid} {workflowId : Uuid} {text : String}
    {source : Source} {m : String × Source.Node} {clock : Clock}
    (htext : Source.ofText? text = .ok source) (hm : m ∈ source.nodes)
    (hc : (Graph.Node.ofSource workflowId m.1 m.2).config? = .ok c)
    (hkind : m.2.kind = "ConditionNode" ∨ m.2.kind = "condition") (hs : s.current = m.1) :
    ChoiceAt { graph := .ofSource ids workflowId source, registry := .builtIn, clock } s c := by
  let node := Graph.Node.ofSource workflowId m.1 m.2
  have hnode : (Graph.ofSource ids workflowId source).node? s.current = some node :=
    (congrArg _ hs).trans (Graph.node?_ofSource (Source.nodup_ids_of_ofText? htext) hm)
  have hend : node.isEnd = false := by
    change Graph.isEndKind m.2.kind = false
    rcases hkind with hkind | hkind <;> rw [hkind] <;> decide
  have hresolve : Step.Registry.builtIn.resolve? node.kind = some Step.choice := by
    change Step.Registry.builtIn.resolve? m.2.kind = some Step.choice
    rcases hkind with hkind | hkind <;> rw [hkind] <;> rfl
  have hconfig : node.config? = .ok c := hc
  refine ⟨node, arrive_of_node? hnode hend, ?_⟩
  simp only [prepare, hresolve, hconfig]

/-- **A session goes on where its step names a node.** -/
theorem Visit.turn_of_nextNode (v : Visit setting s) (hs : (v.result n).success = true)
    (hi : (v.result n).requiresInput = false) (hc : (v.result n).isComplete = false)
    (hid : (v.result n).nextNode = some id) :
    turn setting s n = .ok ({ (v.recorded n).apply (v.result n).updates with
      prompt := none, current := id }, v.network n) := by
  have hnext : next? setting.graph v.node (v.result n) = some id := by rw [next?, hid]
  have hsettled : v.settled n = ({ (v.recorded n).apply (v.result n).updates with
      prompt := none, current := id }, none) := by
    simp [Visit.settled, settle, hs, hi, hc, hnext]
  rw [turn_of_visit, hsettled]

/-- **A session on a condition node goes on where the branch that is taken
leads**, with its state as it was. -/
theorem moves_of_takes (hat : ChoiceAt setting s c) (hbranches : Branch.ofConfig? c = .ok branches)
    (htakes : Choice.Takes s.state branches i b) (hid : b.target = some id) (n : Web.Network) :
    ∃ s', s'.current = id ∧ s'.state = s.state ∧ ∀ budget left,
      runFrom setting budget (left + 1) s n = runFrom setting budget left s' n := by
  obtain ⟨node, harrive, hprepare⟩ := hat
  let v : Visit setting s := ⟨node, Step.choice, c, harrive, hprepare⟩
  have hleaves : Choice.LeavesBy (v.result n) b := Step.Choice.leavesBy_of_takes hbranches htakes
  have hturn := v.turn_of_nextNode hleaves.success hleaves.requiresInput hleaves.isComplete
    (hleaves.target.trans hid)
  have hupdates : (v.result n).updates = .empty := Step.Choice.updates_execute v.input n
  refine ⟨_, rfl, ?_, fun budget left => runFrom_of_turn_ok hturn⟩
  rw [hupdates]
  rfl

/-- **Sessions follow connections**: one that has come to a condition node
with the configuration goes on where the connection of the branch that is
taken leads, with its state as it was. -/
def FollowsConnections (c : NodeConfig) (cs : List Source.Connection) : Prop :=
  ∀ (setting : Setting) (s : Session) (n : Web.Network) (i : Nat) (b : Branch),
    ChoiceAt setting s c → Choice.Takes s.state (cs.map Branch.ofConnection) i b →
    ∃ k s', cs[i]? = some k ∧ s'.current = k.target ∧ s'.state = s.state ∧
      ∀ budget left, runFrom setting budget (left + 1) s n = runFrom setting budget left s' n

/-- Sessions follow the connections that branches are derived from. -/
theorem followsConnections {cs : List Source.Connection}
    (hbranches : Branch.ofConfig? c = .ok (cs.map Branch.ofConnection)) :
    FollowsConnections c cs := by
  intro setting s n i b hat htakes
  have hplace : (cs.map Branch.ofConnection)[i]? = some b := htakes.at_place
  rw [List.getElem?_map] at hplace
  obtain ⟨k, hk, rfl⟩ := Option.map_eq_some_iff.1 hplace
  obtain ⟨s', hcurrent, hstate, hruns⟩ := moves_of_takes hat hbranches htakes rfl n
  exact ⟨k, s', hk, hcurrent, hstate, hruns⟩

/-- **A choice takes one of its branches and nothing behind it matters.**
Let the branches of a configuration be read. The step takes the first
branch whose condition holds, else the first default, and leaves by it. It
fails at a condition without a truth value that it comes to, and where no
branch can be taken. It never changes the state. What stands behind the
branch that it takes or fails at makes no difference, unless a condition
there holds after all.

Branches that are derived from connections belong to these place by
place: the session goes on where the connection of the branch that is
taken leads, and in the graph of a source, where the sessions on the node
come to it, the edge at its place leads there too, through the port of the
branch if that is not empty. -/
theorem choices_take_one_branch (hbranches : Branch.ofConfig? c = .ok branches) :
    (∀ (input : Step.Input) (n : Web.Network), input.config = c →
      Step.Choice.Decides input branches (Step.choice.execute input n).1) ∧
    (Branch.readList? c "branches" Branch.decoder = .ok (some branches) ∨
      ∃ cs, Branch.Derived c cs ∧ branches = cs.map Branch.ofConnection ∧
        FollowsConnections c cs ∧
        ∀ (ids : Nat → Uuid) (workflowId : Uuid) (text : String) (source : Source) (g : Graph)
          (m : String × Source.Node), Source.ofText? text = .ok source →
          Graph.ofText? ids workflowId text = .ok g → m ∈ source.nodes →
          (Graph.Node.ofSource workflowId m.1 m.2).config? = .ok c →
          (∀ (clock : Clock) (s : Session), s.current = m.1 →
            m.2.kind = "ConditionNode" ∨ m.2.kind = "condition" →
            ChoiceAt { graph := g, registry := .builtIn, clock } s c) ∧
          cs = m.2.common.connections ∧
          List.Forall₂ Graph.Edge.IsOfBranch (g.outgoing m.1) cs) := by
  constructor
  · rintro input n rfl
    exact Step.Choice.decides_execute hbranches n
  · refine (Branch.listed_or_derived hbranches).imp_right ?_
    rintro ⟨cs, hderived, rfl⟩
    refine ⟨cs, hderived, rfl, followsConnections hbranches,
      fun ids workflowId text source g m htext hg hm hc => ?_⟩
    obtain ⟨source', hsource, rfl⟩ := map_eq_ok_iff.1 hg
    obtain rfl : source = source' := Except.ok.inj (htext.symm.trans hsource)
    exact ⟨fun clock s hs hkind => choiceAt_of_source htext hm hc hkind hs,
      Graph.forall₂_edges_of_derived htext hm hc hderived⟩

/-! ## Connections that share a port -/

/-- A choice whose connections all leave through one port, two of them
with the same label. -/
def sharedText : String :=
  "\x7b\"c\":\x7b\"type\":\"condition\",\"to\":[" ++
  "\x7b\"id\":\"a\",\"prompt\":\"x == 1\",\"sourcePort\":\"out\"\x7d," ++
  "\x7b\"id\":\"b\",\"prompt\":\"x == 2\",\"sourcePort\":\"out\"\x7d," ++
  "\x7b\"id\":\"d\",\"prompt\":\"x == 2\",\"sourcePort\":\"out\"\x7d]\x7d\x7d"

/-- The connections of the choice. -/
def sharedConnections : List Source.Connection := [
  { target := "a", label := some "x == 1", sourcePort := some "out" },
  { target := "b", label := some "x == 2", sourcePort := some "out" },
  { target := "d", label := some "x == 2", sourcePort := some "out" }]

/-- The node of the choice. -/
def sharedNode : Source.Node where
  detail := .condition
  common := { connections := sharedConnections }

/-- The graph of that flow. -/
def sharedGraph : Graph :=
  .ofSource (fun _ => .nil) .nil { nodes := [("c", sharedNode)] }

/-- The graph is run by the built-in executors. -/
def sharedSetting : Setting where
  graph := sharedGraph
  registry := .builtIn
  clock := default

/-- A session that stands on the choice. -/
def sharedSession : Session :=
  start "shared" .nil "" "c" (.ofEntries [("x", .ofInt 2)]) .epoch

/-- **The session goes to the second node**, by the first of the two
branches that hold, although the first edge through the port leads
elsewhere. -/
theorem sharedSession_moves :
    Graph.ofText? (fun _ => .nil) .nil sharedText = .ok sharedGraph ∧
    (sharedGraph.wayOut? "c" (some "out")).map (·.target) = some "a" ∧
    ∃ s', s'.current = "b" ∧ ∀ budget left,
      runFrom sharedSetting budget (left + 1) sharedSession {} =
        runFrom sharedSetting budget left s' {} := by
  have hsource : Source.ofText? sharedText = .ok { nodes := [("c", sharedNode)] } := by
    decide +kernel
  have hgraph : Graph.ofText? (fun _ => .nil) .nil sharedText = .ok sharedGraph := by
    rw [Graph.ofText?, hsource]
    rfl
  have hconfig : (Graph.Node.ofSource .nil "c" sharedNode).config? =
      .ok { entries := sharedNode.entries } := by
    decide +kernel
  have hbranches : Branch.ofConfig? { entries := sharedNode.entries } =
      .ok (sharedConnections.map Branch.ofConnection) := by
    decide +kernel
  obtain ⟨-, hlisted | ⟨cs, -, -, hmoves, hedges⟩⟩ := choices_take_one_branch hbranches
  · exact absurd hlisted (by decide +kernel)
  obtain ⟨hat, rfl, -⟩ := hedges _ _ _ _ _ _ hsource hgraph List.mem_cons_self hconfig
  have htakes : Choice.Takes sharedSession.state (sharedConnections.map Branch.ofConnection) 1
      (Branch.ofConnection { target := "b", label := some "x == 2", sourcePort := some "out" }) :=
    .holds ⟨rfl, by decide +kernel⟩ (by decide +kernel)
  obtain ⟨k, s', hk, hcurrent, -, hruns⟩ :=
    hmoves _ sharedSession {} 1 _ (hat default sharedSession rfl (.inr rfl)) htakes
  obtain rfl := Option.some.inj hk
  exact ⟨hgraph, by decide +kernel, s', hcurrent, hruns⟩

end Session

end Flowchart
