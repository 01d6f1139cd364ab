import Flowchart.Proofs.Graph.Outgoing
import Flowchart.Proofs.Graph.WayOut
import Flowchart.Proofs.Text.Search

/-!
# Graphs are their sources

The text of a source is an object of nodes; of a repeated name the first
place and the last node remain. The graph has exactly these nodes and
exactly their connections, in the order of the text (`IsDrawnFrom`,
`graphs_are_their_sources`), whatever the names are and wherever the
connections lead.
-/

namespace Flowchart

/-- **The text is an object that is written with these entries**, those
with repeated keys included. -/
def Json.IsWrittenWith (text : String) (entries : List (String × Json)) : Prop :=
  ∃ raws, Raw.ofText? text = some (.object raws) ∧
    Raw.toEntries? (depthLimit - 1) raws = some entries

/-- An object that is read is collected from the entries that it is
written with. -/
theorem Json.exists_isWrittenWith {text : String} {es : Entries}
    (h : ofText? text = some (.object es)) :
    ∃ entries, IsWrittenWith text entries ∧ Entries.ofList entries = es := by
  obtain ⟨raw, hraw, hes⟩ := Option.bind_eq_some_iff.1 h
  cases raw with
  | object raws =>
    rw [Raw.toJson?, if_neg (by decide)] at hes
    obtain ⟨entries, hentries, hobject⟩ := Option.map_eq_some_iff.1 hes
    exact ⟨entries, ⟨raws, hraw, hentries⟩, Json.object.inj hobject⟩
  | null | bool => cases hes
  | number | string =>
    rw [Raw.toJson?] at hes
    obtain ⟨_, -, hother⟩ := Option.map_eq_some_iff.1 hes
    cases hother
  | array =>
    rw [Raw.toJson?, if_neg (by decide)] at hes
    obtain ⟨_, -, hother⟩ := Option.map_eq_some_iff.1 hes
    cases hother

namespace Source

/-- **The port through which a connection leaves**: its own, else its
label if that is not empty, else none. -/
inductive Connection.LeavesBy (c : Connection) : Option String → Prop where
  /-- It has a port of its own. -/
  | own {port : String} (h : c.sourcePort = some port) : c.LeavesBy (some port)
  /-- It has none, and a label that is not empty. -/
  | label {label : String} (h : c.sourcePort = none) (hl : c.label = some label)
    (hne : label ≠ "") : c.LeavesBy (some label)
  /-- It has neither. -/
  | neither (h : c.sourcePort = none) (hl : ∀ label ∈ c.label, label = "") : c.LeavesBy none

theorem Connection.leavesBy_portOf (c : Connection) : c.LeavesBy (Graph.portOf c) := by
  cases hport : c.sourcePort with
  | some port =>
    have heq : Graph.portOf c = some port := by rw [Graph.portOf, hport]; rfl
    exact heq ▸ .own hport
  | none =>
    have heq : Graph.portOf c = c.label.filter (· ≠ "") := by rw [Graph.portOf, hport]; rfl
    rw [heq]
    cases hlabel : c.label.filter (· ≠ "") with
    | some label =>
      obtain ⟨hl, hne⟩ := Option.filter_eq_some_iff.1 hlabel
      exact .label hport hl (by simpa using hne)
    | none =>
      refine .neither hport fun label hl => ?_
      simpa using Option.filter_eq_none_iff.1 hlabel label hl

end Source

namespace Graph

variable {ids : Nat → Uuid} {workflowId : Uuid} {s : Source} {text : String} {g : Graph}

/-- **The edge is drawn from a connection** of the node with a name. -/
structure Edge.IsDrawnFrom (e : Edge) (name : String) (c : Source.Connection) : Prop where
  /-- It leaves the node. -/
  source : e.source = name
  /-- It arrives where the connection leads. -/
  target : e.target = c.target
  /-- It arrives at the port of the connection. -/
  targetPort : e.targetPort = c.targetPort
  /-- It has the label of the connection. -/
  label : e.label = c.label
  /-- It leaves through the port of the connection. -/
  sourcePort : c.LeavesBy e.sourcePort

theorem Edge.IsOf.isDrawnFrom {e : Edge} {name : String} {c : Source.Connection}
    (h : e.IsOf workflowId name c) : e.IsDrawnFrom name c := by
  obtain ⟨id, rfl⟩ := h
  exact ⟨rfl, rfl, rfl, rfl, c.leavesBy_portOf⟩

/-- Nodes of this kind start a flow. -/
def StartsFlow (kind : String) : Prop :=
  "Start".toList <:+: kind.toList

/-- **The graph is drawn from a source.** -/
structure IsDrawnFrom (g : Graph) (s : Source) : Prop where
  /-- The names of the nodes are distinct. -/
  distinct : (s.nodes.map (·.1)).Nodup
  /-- The graph has the nodes of the source, in order. -/
  nodes : List.Forall₂ (fun n m => n.id = m.1 ∧ n.kind = m.2.kind) g.nodes s.nodes
  /-- Each node is found under its name. -/
  found : ∀ (i : Nat) (m : String × Source.Node), s.nodes[i]? = some m →
    ∃ n, g.nodes[i]? = some n ∧ g.node? m.1 = some n
  /-- Nothing is found under another name. -/
  missing : ∀ name, name ∉ s.nodes.map (·.1) → g.node? name = none
  /-- The edges that leave a node are its connections, in order. -/
  outgoing : ∀ m ∈ s.nodes, List.Forall₂ (fun e c => e.IsDrawnFrom m.1 c) (g.outgoing m.1)
    m.2.common.connections
  /-- There are no other edges. -/
  edges : g.edges = s.nodes.flatMap fun m => g.outgoing m.1
  /-- The way out of a node through a port is the first of its edges that
  leaves through the port. -/
  wayOut : ∀ m ∈ s.nodes, ∀ port e, g.wayOut? m.1 port = some e ↔
    ∃ before after, g.outgoing m.1 = before ++ e :: after ∧ e.Fits port ∧
      ∀ d ∈ before, ¬ d.Fits port
  /-- The flow starts at the first node of a kind that starts flows. -/
  firstStart : ∀ before m after, s.nodes = before ++ m :: after → StartsFlow m.2.kind →
    (∀ b ∈ before, ¬ StartsFlow b.2.kind) → g.start? = g.node? m.1
  /-- Without such a node it starts at the one that is named `start`. -/
  namedStart : (∀ m ∈ s.nodes, ¬ StartsFlow m.2.kind) → g.start? = g.node? "start"

/-! ## Edges in groups -/

/-- **Edges that stand together by their nodes** are those that leave each
of the nodes, in order. -/
theorem flatMap_filter_source {nodes : List (String × Source.Node)} {edges : List Edge}
    (hnodup : (nodes.map (·.1)).Nodup)
    (h : edges.map (·.source) =
      nodes.flatMap fun m => List.replicate m.2.common.connections.length m.1) :
    edges = nodes.flatMap fun m => edges.filter (·.source == m.1) := by
  induction nodes generalizing edges with
  | nil => exact List.map_eq_nil_iff.1 h
  | cons m nodes ih =>
    obtain ⟨hm, hnodup⟩ := List.nodup_cons.1 hnodup
    replace hm : m.1 ∉ nodes.map (·.1) := hm
    rw [List.flatMap_cons] at h
    obtain ⟨own, rest, rfl, hown, hrest⟩ := List.map_eq_append_iff.1 h
    have hfirst : ∀ e ∈ own, e.source = m.1 := fun e he =>
      List.eq_of_mem_replicate (hown ▸ List.mem_map_of_mem he)
    have hother : ∀ e ∈ rest, e.source ∈ nodes.map (·.1) := by
      intro e he
      obtain ⟨b, hb, hsource⟩ := List.mem_flatMap.1 (hrest ▸ List.mem_map_of_mem he)
      exact List.eq_of_mem_replicate hsource ▸ List.mem_map_of_mem hb
    -- the first node has the edges in front, and the other nodes have the rest
    have hownFilter : (own ++ rest).filter (·.source == m.1) = own := by
      have hall : own.filter (·.source == m.1) = own :=
        List.filter_eq_self.2 fun e he => beq_iff_eq.2 (hfirst e he)
      have hnone : rest.filter (·.source == m.1) = [] :=
        List.filter_eq_nil_iff.2 fun e he heq => hm (eq_of_beq heq ▸ hother e he)
      rw [List.filter_append, hall, hnone, List.append_nil]
    have hrestFilter : ∀ b ∈ nodes, (own ++ rest).filter (·.source == b.1) =
        rest.filter (·.source == b.1) := by
      intro b hb
      have hnone : own.filter (·.source == b.1) = [] :=
        List.filter_eq_nil_iff.2 fun e he heq => by
          have hname : m.1 = b.1 := (hfirst e he).symm.trans (eq_of_beq heq)
          exact hm (hname ▸ List.mem_map_of_mem hb)
      rw [List.filter_append, hnone, List.nil_append]
    rw [List.flatMap_cons, hownFilter, List.flatMap_congr hrestFilter, ← ih hnodup hrest]

/-- The edges of a graph stand together by their nodes. -/
theorem map_source_edges (ids : Nat → Uuid) (workflowId : Uuid) (s : Source) :
    (ofSource ids workflowId s).edges.map (·.source) =
      s.nodes.flatMap fun m => List.replicate m.2.common.connections.length m.1 := by
  have hsources : (ofSource ids workflowId s).edges.map (·.source) =
      (connections s).map (·.1) := by
    refine List.ext_getElem (by simp [ofSource]) fun i _ _ => ?_
    simp [ofSource, Edge.ofConnection]
  rw [hsources, connections, List.map_flatMap]
  refine List.flatMap_congr fun m _ => ?_
  rw [List.map_map]
  exact List.map_const' ..

/-! ## The graph of a source -/

theorem node?_ofSource_of_not_mem {name : String} (h : name ∉ s.nodes.map (·.1)) :
    (ofSource ids workflowId s).node? name = none := by
  refine List.find?_eq_none.2 fun n hn heq => h ?_
  obtain ⟨m, hm, rfl⟩ := List.mem_map.1 hn
  exact eq_of_beq heq ▸ List.mem_map_of_mem hm

theorem isStartKind_iff {kind : String} : isStartKind kind = true ↔ StartsFlow kind :=
  Text.occurs_iff

/-- The start is looked for among the nodes of the source. -/
theorem start?_ofSource :
    (ofSource ids workflowId s).start? =
      (((s.nodes.find? (isStartKind ·.2.kind)).map fun m => .ofSource workflowId m.1 m.2) <|>
        (ofSource ids workflowId s).node? "start") := by
  rw [start?]
  congr 1
  exact List.find?_map ..

theorem start?_of_first {before after : List (String × Source.Node)} {m : String × Source.Node}
    (hnodup : (s.nodes.map (·.1)).Nodup) (hs : s.nodes = before ++ m :: after)
    (hm : StartsFlow m.2.kind) (hbefore : ∀ b ∈ before, ¬ StartsFlow b.2.kind) :
    (ofSource ids workflowId s).start? = (ofSource ids workflowId s).node? m.1 := by
  have hfirst : s.nodes.find? (isStartKind ·.2.kind) = some m := by
    refine List.find?_eq_some_iff_append.2 ⟨isStartKind_iff.2 hm, before, after, hs, ?_⟩
    intro b hb
    rw [Bool.not_eq_true', ← Bool.not_eq_true, isStartKind_iff]
    exact hbefore b hb
  rw [start?_ofSource, hfirst, node?_ofSource hnodup (List.mem_of_find?_eq_some hfirst)]
  rfl

theorem start?_of_none (h : ∀ m ∈ s.nodes, ¬ StartsFlow m.2.kind) :
    (ofSource ids workflowId s).start? = (ofSource ids workflowId s).node? "start" := by
  have hnone : s.nodes.find? (isStartKind ·.2.kind) = none :=
    List.find?_eq_none.2 fun m hm hstart => h m hm (isStartKind_iff.1 hstart)
  rw [start?_ofSource, hnone]
  rfl

/-- **The graph of a source with distinct names is drawn from it.** -/
theorem isDrawnFrom_ofSource (hnodup : (s.nodes.map (·.1)).Nodup) :
    (ofSource ids workflowId s).IsDrawnFrom s where
  distinct := hnodup
  nodes := by
    rw [ofSource, List.forall₂_map_left_iff, List.forall₂_same]
    exact fun m _ => ⟨rfl, rfl⟩
  found i m hi := by
    refine ⟨.ofSource workflowId m.1 m.2, ?_, node?_ofSource hnodup (List.mem_of_getElem? hi)⟩
    rw [ofSource, List.getElem?_map, hi]
    rfl
  missing name := node?_ofSource_of_not_mem
  outgoing m hm := (forall₂_outgoing hnodup hm).imp fun e c he => he.isDrawnFrom
  edges := flatMap_filter_source hnodup (map_source_edges ids workflowId s)
  wayOut m hm port e := wayOut?_eq_some_iff_outgoing
  firstStart before m after hs hm hbefore := start?_of_first hnodup hs hm hbefore
  namedStart := start?_of_none

/-- **The compiled graph is the source graph.** The text of a source that
is compiled is an object, of whose entries a repeated key keeps the first
place and the last value; the nodes of the source are read from what is
left of them, in order. The graph is drawn from these nodes and nothing
else: it finds each of them under its name, the edges that leave it are
its connections, and the flow starts at the first node of a kind that
starts flows, else at the node that is named `start`. -/
theorem graphs_are_their_sources (h : ofText? ids workflowId text = .ok g) :
    ∃ (written : List (String × Json)) (es : Json.Entries) (s : Source),
      Json.IsWrittenWith text written ∧
      es.keys = (written.map (·.1)).eraseDups ∧
      (∀ key, es.find? key = Json.Entries.find? key written.reverse) ∧
      List.Forall₂ (fun e m => e.1 = m.1 ∧ Source.Node.ofJson? e.2 = .ok m.2) es s.nodes ∧
      g.IsDrawnFrom s := by
  obtain ⟨s, hs, rfl⟩ := map_eq_ok_iff.1 h
  obtain ⟨es, hes, hnodes⟩ := Source.exists_of_ofText? hs
  obtain ⟨written, hwritten, rfl⟩ := Json.exists_isWrittenWith hes
  exact ⟨written, _, s, hwritten, Json.Entries.keys_ofList written,
    Json.Entries.find?_ofList written, Source.Node.forall₂_of_readNodes hnodes,
    isDrawnFrom_ofSource (Source.nodup_ids_of_ofText? hs)⟩

/-! ## A source with repeated names -/

/-- A node that is declared twice, connections that lead nowhere and back,
and ports of every sort. -/
def tangledText : String :=
  "\x7b\"a\":\x7b\"type\":\"StartNode\"\x7d," ++
  "\"start\":\x7b\"type\":\"x\",\"to\":[" ++
  "\x7b\"id\":\"start\",\"prompt\":\"\"\x7d," ++
  "\x7b\"id\":\"nowhere\",\"prompt\":\"yes\"\x7d," ++
  "\x7b\"id\":\"a\",\"prompt\":\"no\",\"sourcePort\":\"yes\"\x7d]\x7d," ++
  "\"a\":\x7b\"type\":\"y\",\"to\":[\x7b\"id\":\"start\"\x7d]\x7d\x7d"

/-- The source of that text. -/
def tangledSource : Source where
  nodes := [
    ("a", { detail := .custom "y", common := { connections := [{ target := "start" }] } }),
    ("start", { detail := .custom "x", common := { connections := [
      { target := "start", label := some "" },
      { target := "nowhere", label := some "yes" },
      { target := "a", label := some "no", sourcePort := some "yes" }] } })]

/-- **The last declaration of the node counts**, in the place of the
first; so no node starts the flow by its kind, and the second connection
is the way out through the port of the third. -/
theorem tangled_graph_is_its_source :
    ∃ g, ofText? (fun _ => .nil) .nil tangledText = .ok g ∧ (∃ s, g.IsDrawnFrom s) ∧
      g.nodes.map (fun n => (n.id, n.kind)) = [("a", "y"), ("start", "x")] ∧
      (g.wayOut? "start" (some "yes")).map (·.target) = some "nowhere" ∧
      g.start?.map (·.id) = some "start" := by
  have hsource : Source.ofText? tangledText = .ok tangledSource := by decide +kernel
  have hgraph : ofText? (fun _ => .nil) .nil tangledText =
      .ok (ofSource (fun _ => .nil) .nil tangledSource) := by
    rw [ofText?, hsource]
    rfl
  obtain ⟨written, es, s, -, -, -, -, hdrawn⟩ := graphs_are_their_sources hgraph
  exact ⟨_, hgraph, ⟨s, hdrawn⟩, by decide +kernel, by decide +kernel, by decide +kernel⟩

end Graph

end Flowchart
