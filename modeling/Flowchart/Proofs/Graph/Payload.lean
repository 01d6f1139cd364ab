import Flowchart.Graph.Validation
import Flowchart.Proofs.Session.Course
import Flowchart.Proofs.Source.RoundTrip

/-!
# Steps see what was written

The configuration of a node of a graph holds every field that its source
has and that its type does not know, with the same value
(`Node.Shows`). It can always be read, so on a graph that was made of a
source no rule and no run finds one that cannot
(`exists_of_invalidConfig`, `exists_of_invalidNodeConfig`).
-/

namespace Flowchart

open Json (Entries)

namespace Source.Node

/-- The fields that a node knows. -/
def known (n : Node) : List String :=
  "type" :: (Common.known ++ n.detail.known)

variable {n : Node} {fs : Entries} {key : String}

/-- **Under a key that a node does not know its document holds what its
object held.** -/
theorem find?_entries_eq (hdistinct : Entries.Distinct fs) (h : ofJson? (.object fs) = .ok n)
    (hkey : key ∉ n.known) : n.entries.find? key = fs.find? key := by
  have hextra := extra_perm hdistinct h
  have hkept : Entries.Distinct n.common.extra :=
    (hdistinct.sublist List.filter_sublist).perm hextra.symm
  rw [find?_unknown hkey, Entries.find?_perm hkept hextra]
  exact Entries.find?_filter (p := fun k => !n.known.contains k) (by simpa using hkey)

end Source.Node

namespace Graph

/-- **A node of a graph shows the object that it was made of**: its
configuration can be read and has the entries of the object, and besides
them only fields that the node knows. -/
structure Node.Shows (node : Node) (fs : Entries) (n : Source.Node) (c : NodeConfig) : Prop where
  /-- The object is read as a node. -/
  source : Source.Node.ofJson? (.object fs) = .ok n
  /-- The configuration is read from the node of the graph. -/
  config : node.config? = .ok c
  /-- It names the kind of the node. -/
  kind : c.entries.find? "type" = some (.string node.kind)
  /-- It lists the connections in order. -/
  connections : c.entries.find? "to" = some (.array (n.common.connections.map (·.toJson)))
  /-- What the node does not know stands there as it was. -/
  unknown : ∀ key, key ∉ n.known → c.entries.find? key = fs.find? key
  /-- Nothing else stands there. -/
  keys : ∀ key ∈ c.keys, key ∈ n.known ∨ key ∈ Entries.keys fs

/-- The configuration of a node is the node as a document. -/
theorem Node.config?_ofSource {n : Source.Node} (h : n.WasRead) (hexact : n.toJson.Exact)
    (workflowId : Uuid) (id : String) :
    (Node.ofSource workflowId id n).config? = .ok { entries := n.entries } := by
  have hread : Json.ofText? n.toJson.compact = some n.toJson :=
    Json.ofText?_compact_of_exact h.keeps.keyed_toJson (Nat.le_of_lt h.depth) hexact
  rw [config?, NodeConfig.ofText?, not_allBlank_payload, if_neg (by simp), ofSource]
  simp only [hread]
  rfl

/-- **A node that was read shows its object.** -/
theorem Node.shows_ofSource {fs : Entries} {n : Source.Node} (hn : n.WasRead)
    (hexact : n.toJson.Exact) (hdistinct : Entries.Distinct fs)
    (h : Source.Node.ofJson? (.object fs) = .ok n) (workflowId : Uuid) (id : String) :
    (Node.ofSource workflowId id n).Shows fs n { entries := n.entries } where
  source := h
  config := config?_ofSource hn hexact workflowId id
  kind := by
    rw [Source.Node.entries, Entries.find?, if_pos rfl]
    rfl
  connections := n.find?_to
  unknown := fun key hkey => Source.Node.find?_entries_eq hdistinct h hkey
  keys := by
    intro key hkey
    by_cases hknown : key ∈ n.known
    · exact .inl hknown
    · obtain ⟨e, he, rfl⟩ := List.mem_map.1 hkey
      have hfind : n.entries.find? e.1 = some e.2 :=
        (Entries.find?_eq_some_iff hn.keeps.keyed_toJson.1).2 he
      rw [Source.Node.find?_entries_eq hdistinct h hknown] at hfind
      exact .inr (List.mem_map.2 ⟨_, Entries.mem_of_find?_eq_some hfind, rfl⟩)

/-! ## Configurations that cannot be read -/

variable {g : Graph}

/-- The rules on the shape of a graph look at no configuration. -/
theorem code_ne_of_mem_shape {f : Finding}
    (hf : f ∈ g.startErrors ++ g.endErrors ++
      (g.startWarnings ++ g.orphanWarnings ++ g.deadEndWarnings ++ g.cycleWarnings)) :
    f.code ≠ .invalidConfig := by
  simp only [startErrors, endErrors, startWarnings, orphanWarnings, deadEndWarnings,
    cycleWarnings, List.mem_append, List.mem_ite_nil_left, List.mem_map, List.mem_singleton] at hf
  rcases hf with (⟨-, rfl⟩ | ⟨-, rfl⟩) |
    ((⟨-, rfl⟩ | ⟨node, -, rfl⟩) | ⟨node, -, rfl⟩) | ⟨c, -, rfl⟩
  all_goals simp

/-- Of the rules on a node one reports that its configuration cannot be
read. -/
theorem Node.exists_of_invalidConfig {node : Node} {f : Finding}
    (hf : f ∈ node.configErrors ++ node.configWarnings) (hcode : f.code = .invalidConfig) :
    ∃ e, node.config? = .error e := by
  unfold configErrors configWarnings at hf
  split at hf
  · next e he => exact ⟨e, he⟩
  · -- the other findings have codes of their own
    exfalso
    rcases List.mem_append.1 hf with hf | hf
    · split at hf
      · rw [List.mem_singleton.1 hf] at hcode
        cases hcode
      · split at hf
        · rw [List.mem_singleton.1 hf] at hcode
          cases hcode
        · cases hf
    · split at hf
      · rw [List.mem_singleton.1 hf] at hcode
        cases hcode
      · cases hf

/-- **A rule reports a configuration that cannot be read** only of such a
node. -/
theorem exists_of_invalidConfig {f : Finding}
    (hf : f ∈ g.validate.errors ++ g.validate.warnings) (hcode : f.code = .invalidConfig) :
    ∃ node ∈ g.nodes, ∃ e, node.config? = .error e := by
  have hshape := mt (code_ne_of_mem_shape (g := g) (f := f)) (not_not.2 hcode)
  have hnode : ∃ node ∈ g.nodes, f ∈ node.configErrors ++ node.configWarnings := by
    simp only [validate, errors, warnings, List.mem_append, List.mem_flatMap] at hf hshape ⊢
    rcases hf with (hf | ⟨node, hmem, hf⟩) | hf | ⟨node, hmem, hf⟩
    · exact absurd (.inl hf) hshape
    · exact ⟨node, hmem, .inl hf⟩
    · exact absurd (.inr hf) hshape
    · exact ⟨node, hmem, .inr hf⟩
  obtain ⟨node, hmem, hf⟩ := hnode
  exact ⟨node, hmem, Node.exists_of_invalidConfig hf hcode⟩

end Graph

/-- **A run fails by a configuration that cannot be read** only at such a
node. -/
theorem Session.exists_of_invalidNodeConfig {setting : Session.Setting} {budget : Nat}
    {s : Session} {n : Web.Network} {id : String} {reason : NodeConfig.Error}
    (h : (s.run setting budget n).outcome = .failed (.invalidNodeConfig id reason)) :
    ∃ node ∈ setting.graph.nodes, node.config? = .error reason := by
  rcases (course_run setting budget s n).end_cases with ⟨p, -, hends, -⟩ | ⟨hhalts, -, -⟩
  · rw [h] at hends
    cases hends
  · rw [h] at hhalts
    cases hhalts with
    | misconfigured hn he hc => exact ⟨_, List.mem_of_find?_eq_some hn, hc⟩

/-- A part of an exact document is exact. -/
theorem Source.exact_of_mem {s : Source} (hexact : s.toJson.Exact) {n : String × Source.Node}
    (hn : n ∈ s.nodes) : n.2.toJson.Exact :=
  Json.exact_object_iff.1 hexact (n.1, n.2.toJson) (List.mem_map.2 ⟨n, hn, rfl⟩)

namespace Graph

/-- **A graph shows the object of nodes that it was made of**, node by
node in their order. -/
def Shows (g : Graph) (es : Entries) : Prop :=
  List.Forall₂ (fun e node => node.id = e.1 ∧
    ∃ fs n c, e.2 = Json.object fs ∧ Node.Shows node fs n c) es g.nodes

/-- **A graph whose configurations can be read**, as its users see it. -/
structure Legible (g : Graph) : Prop where
  /-- No rule reports one that cannot. -/
  rules : ∀ f ∈ g.validate.errors ++ g.validate.warnings, f.code ≠ .invalidConfig
  /-- No run fails by one that cannot. -/
  runs : ∀ (registry : Step.Registry) (clock : Clock) (session : Session) (budget : Nat)
    (network : Web.Network) (id : String) (reason : NodeConfig.Error),
    (session.run ⟨g, registry, clock⟩ budget network).outcome ≠
      .failed (.invalidNodeConfig id reason)

theorem legible_of_config? {g : Graph} (h : ∀ node ∈ g.nodes, ∃ c, node.config? = .ok c) :
    g.Legible where
  rules := by
    intro f hf hcode
    obtain ⟨node, hnode, e, he⟩ := exists_of_invalidConfig hf hcode
    obtain ⟨c, hc⟩ := h node hnode
    cases hc.symm.trans he
  runs := by
    intro registry clock session budget network id reason hfail
    obtain ⟨node, hnode, he⟩ := Session.exists_of_invalidNodeConfig hfail
    obtain ⟨c, hc⟩ := h node hnode
    cases hc.symm.trans he

variable {text : String} {s : Source}

/-- The graph of a source shows its object. -/
theorem shows_ofSource (h : Source.ofText? text = .ok s) (hexact : s.toJson.Exact)
    (ids : Nat → Uuid) (workflowId : Uuid) :
    ∃ es, Json.ofText? text = some (.object es) ∧ (ofSource ids workflowId s).Shows es := by
  obtain ⟨es, hes, hnodes⟩ := Source.exists_of_ofText? h
  obtain ⟨hlength, hread⟩ := List.forall₂_iff_zip.1 (Source.Node.forall₂_of_readNodes hnodes)
  refine ⟨es, hes, List.forall₂_map_right_iff.2 (List.forall₂_iff_zip.2 ⟨hlength, ?_⟩)⟩
  intro e n hzip
  obtain ⟨he, hn⟩ := List.of_mem_zip hzip
  obtain ⟨hid, hj⟩ := hread hzip
  have hkeyed := Json.keyedEntries_iff.1 (Json.keyed_of_ofText? hes).2 e he
  obtain ⟨fs, hfs, -⟩ := Source.Node.exists_of_ofJson? hj
  rw [hfs] at hj hkeyed
  exact ⟨hid.symm, fs, n.2, _, hfs, Node.shows_ofSource (Source.wasRead_of_ofText? h n hn)
    (Source.exact_of_mem hexact hn) hkeyed.1 hj workflowId n.1⟩

/-- **Steps see what was written.** Every node of the graph of a source
shows its object, so no rule reports its configuration as one that cannot
be read, and no run fails by it. Numbers are assumed to be read as they
are written. -/
theorem steps_see_source (h : Source.ofText? text = .ok s) (hexact : s.toJson.Exact)
    (ids : Nat → Uuid) (workflowId : Uuid) :
    ∃ es g, Json.ofText? text = some (.object es) ∧ ofText? ids workflowId text = .ok g ∧
      g.Shows es ∧ g.Legible := by
  obtain ⟨es, hes, hshows⟩ := shows_ofSource h hexact ids workflowId
  refine ⟨es, _, hes, map_eq_ok_iff.2 ⟨s, h, rfl⟩, hshows, legible_of_config? fun node hnode => ?_⟩
  obtain ⟨n, hn, rfl⟩ := List.mem_map.1 hnode
  exact ⟨_, Node.config?_ofSource (Source.wasRead_of_ofText? h n hn)
    (Source.exact_of_mem hexact hn) workflowId n.1⟩

/-- A question with a field that only notes know, and a null. -/
def inquiryText : String :=
  "\x7b\"q\":\x7b\"position\":\x7b\"y\":1,\"x\":2\x7d,\"promptText\":\"Age?\"," ++
    "\"type\":\"QuestionNode\",\"stateKey\":null,\"to\":[\x7b\"targetNodeId\":\"end\"\x7d]\x7d\x7d"

/-- What it is read as. -/
def inquiry : Source where
  nodes := [
    ("q", {
      detail := .custom "QuestionNode"
      common := {
        connections := [{ target := "end" }]
        extra := [
          ("position", .object [("y", .ofInt 1), ("x", .ofInt 2)]),
          ("promptText", .string "Age?"),
          ("stateKey", .null)] } })]

theorem inquiry_steps_see_source :
    Source.ofText? inquiryText = .ok inquiry ∧ inquiry.toJson.Exact ∧
      ∀ (ids : Nat → Uuid) (workflowId : Uuid),
        ∃ es g, Json.ofText? inquiryText = some (.object es) ∧
          ofText? ids workflowId inquiryText = .ok g ∧ g.Shows es ∧ g.Legible := by
  have hread : Source.ofText? inquiryText = .ok inquiry := by decide +kernel
  have hexact : inquiry.toJson.Exact := by decide +kernel
  exact ⟨hread, hexact, steps_see_source hread hexact⟩

end Graph

end Flowchart
