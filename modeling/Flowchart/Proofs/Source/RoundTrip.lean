import Flowchart.Proofs.Json.Exact
import Flowchart.Proofs.Json.Order
import Flowchart.Proofs.Source.Config

/-!
# Sources survive a round trip

A node may come in many spellings. Written as a document it has one, and
reading that one gives the node back (`Node.exists_ofJson?_toJson`). Only
the unknown fields may change their order, since taking the type out of
an object moves its last entry. What is written is no deeper than what
was read (`Node.depth_toJson_le`), so a whole source survives too
(`round_trip`), and with it the graph made of it.
-/

namespace Flowchart

open Json (Entries Raw Decoder)

namespace Source

/-- Fields with one name each are read from the entries with these names,
wherever they stand. -/
theorem Node.readFields_of_perm {ρ : Type} {fields : List (Decoder.Field ρ)} {scope : Json.Scope}
    {start r : ρ} {es parts : Entries} (hnames : ∀ f ∈ fields, f.otherName = none)
    (hcommutes : ∀ f ∈ fields, ∀ g ∈ fields, f.name ≠ g.name → f.Commutes g)
    (hp : (es.filter fun e => (fields.map (·.name)).contains e.1).Perm parts)
    (h : Node.readFields fields scope start parts = .ok r) :
    Node.readFields fields scope start es = .ok r := by
  rw [Node.readFields, ← Decoder.readEntries_filter]
  simp only [Decoder.knows_eq_contains hnames]
  exact Decoder.readEntries_of_perm hcommutes hp.symm h

/-! ## The fields of all nodes -/

namespace Common

variable (c : Common) {r : Common} {seen : List String} {aside : Bool}

/-- An instruction is read as it is written, or left out. -/
theorem readEntries_prompt (hseen : "prompt" ∉ seen) (hr : r.prompt = none) :
    Decoder.readEntries fields { aside } seen r
        (Raw.ofEntries (c.prompt.map fun p => ("prompt", Json.string p)).toList) =
      .ok { r with prompt := c.prompt } := by
  obtain ⟨label, connections, _, extra⟩ := r
  obtain rfl := hr
  cases c.prompt with
  | none => rfl
  | some p => exact Decoder.readEntries_cons rfl hseen rfl

/-- Connections are read as they are written, and then the instruction. -/
theorem readEntries_to (hto : "to" ∉ seen) (hseen : "prompt" ∉ seen) (hr : r.prompt = none) :
    Decoder.readEntries fields { aside } seen r
        (Raw.ofEntries (("to", .array (c.connections.map (·.toJson))) ::
          (c.prompt.map fun p => ("prompt", Json.string p)).toList)) =
      .ok { r with connections := c.connections, prompt := c.prompt } := by
  have hread : Decoder.list Connection.decoder { aside }
      (.array (Raw.ofItems (c.connections.map (·.toJson)))) = .ok c.connections :=
    items_connections c.connections 125 aside
  have hprompt : "prompt" ∉ "to" :: seen := by simp [hseen]
  exact (Decoder.readEntries_cons rfl hto (map_eq_ok_iff.2 ⟨_, hread, rfl⟩)).trans
    (c.readEntries_prompt (r := { r with connections := c.connections }) hprompt hr)

/-- **The fields of all nodes are read as they are written.** -/
theorem readFields_written (aside : Bool) :
    Node.readFields fields { aside } {} c.written = .ok { c with extra := [] } := by
  rw [Node.readFields, written]
  by_cases hlabel : c.label = ""
  -- an empty title is not written, and one that is not there is empty
  · rw [if_pos hlabel, List.nil_append]
    exact (c.readEntries_to List.not_mem_nil List.not_mem_nil rfl).trans (by rw [hlabel])
  · rw [if_neg hlabel]
    exact (Decoder.readEntries_cons rfl List.not_mem_nil rfl).trans
      (c.readEntries_to (r := { label := c.label }) (by decide) (by decide) rfl)

/-- No two of them are stored in one place. -/
theorem commutes_fields :
    ∀ f ∈ fields, ∀ g ∈ fields, f.name ≠ g.name → f.Commutes g := by
  intro f hf g hg hne
  simp only [fields, List.mem_cons, List.not_mem_nil, or_false] at hf hg
  rcases hf with rfl | rfl | rfl <;> rcases hg with rfl | rfl | rfl
  all_goals
    first
    | exact absurd rfl hne
    | exact Decoder.Field.commutes_of _ _ fun _ _ _ => rfl

end Common

/-! ## The fields of a type -/

/-- A skill is read as it is written. -/
theorem Skill.decoder_toJson (s : Skill) (levels : Nat) (aside : Bool) :
    Skill.decoder { levels := levels + 1, aside } (Raw.ofJson s.toJson) = .ok s := by
  obtain ⟨id, name, icon⟩ := s
  by_cases hicon : icon = ""
  · rw [hicon]
    rfl
  · rw [Skill.toJson, if_neg hicon]
    rfl

theorem mapEntries_skills (es : List (String × Skill)) (levels : Nat) (aside : Bool) :
    Decoder.mapEntries Skill.decoder { levels := levels + 1, aside }
      (Raw.ofEntries (es.map fun e => (e.1, e.2.toJson))) = .ok es := by
  induction es with
  | nil => rfl
  | cons e es ih =>
    rw [List.map_cons, Raw.ofEntries, Decoder.mapEntries]
    simp only [Skill.decoder_toJson, ih]
    rfl

/-- Skills are read as they are written, each in its place. -/
theorem map_skills (skills : SortedMap Skill) :
    Decoder.map Skill.decoder {}
      (Raw.ofJson (.object (skills.entries.map fun e => (e.1, e.2.toJson)))) = .ok skills := by
  have hentries := mapEntries_skills skills.entries 125 false
  rw [Raw.ofJson, Decoder.map]
  exact map_eq_ok_iff.2 ⟨skills.entries, hentries, skills.ofList_entries⟩

namespace Detail

/-- **A type of its own is named otherwise** than those with fields. -/
def Named : Detail → Prop
  | custom kind => kind ∉ ["trigger", "agent", "action", "condition", "note"]
  | trigger _ | agent _ | action _ | condition | note _ _ => True

/-- A type that was read is a type of its own only if it is no other. -/
theorem named_of_readDetail {kind : String} {es : Entries} {d : Detail}
    (h : Node.readDetail kind es = .ok d) : d.Named := by
  unfold Node.readDetail at h
  split at h
  case h_4 =>
    obtain rfl := Except.ok.inj h
    trivial
  case h_6 htrigger hagent haction hcondition hnote =>
    obtain rfl := Except.ok.inj h
    simp_all [Named]
  all_goals
    obtain ⟨x, -, rfl⟩ := map_eq_ok_iff.1 h
    trivial

/-- **A type is read from its own fields**, wherever they stand. -/
theorem readDetail_of_perm {d : Detail} {es : Entries} (hd : d.Named)
    (hp : (es.filter fun e => d.known.contains e.1).Perm d.entries) :
    Node.readDetail d.kind es = .ok d := by
  cases d with
  | trigger key =>
    exact map_eq_ok_iff.2 ⟨key, Node.readFields_of_perm (by simp [Decoder.Field.of])
      (by simp) hp rfl, rfl⟩
  | agent skills =>
    have hread : Node.readFields [.of "skills" (.map Skill.decoder) fun _ x => x] {}
        SortedMap.empty (Detail.agent skills).entries = .ok skills :=
      Decoder.readEntries_cons rfl List.not_mem_nil
        (map_eq_ok_iff.2 ⟨skills, map_skills skills, rfl⟩)
    exact map_eq_ok_iff.2 ⟨skills, Node.readFields_of_perm (by simp [Decoder.Field.of])
      (by simp) hp hread, rfl⟩
  | action key =>
    exact map_eq_ok_iff.2 ⟨key, Node.readFields_of_perm (by simp [Decoder.Field.of])
      (by simp) hp rfl, rfl⟩
  | condition => rfl
  | note markdown position =>
    refine map_eq_ok_iff.2 ⟨(markdown, position), Node.readFields_of_perm
      (by simp [Decoder.Field.of]) (fun f hf g hg hne => ?_) hp (by cases position <;> rfl), rfl⟩
    -- the text and the position are stored side by side
    simp only [List.mem_cons, List.not_mem_nil, or_false] at hf hg
    rcases hf with rfl | rfl <;> rcases hg with rfl | rfl
    all_goals
      first
      | exact absurd rfl hne
      | exact Decoder.Field.commutes_of _ _ fun _ _ _ => rfl
  | custom kind =>
    rw [Detail.kind, Node.readDetail]
    all_goals simp_all [Named]

end Detail

/-! ## Whole nodes -/

/-- **A node with its unknown fields in another order.** -/
structure Node.Reordered (n m : Node) : Prop where
  /-- The type and the fields that it knows are the same. -/
  detail : m.detail = n.detail
  /-- The fields of all nodes are the same, the unknown ones apart. -/
  common : m.common = { n.common with extra := m.common.extra }
  /-- The unknown fields are the same, and hold the same. -/
  extra : n.common.extra.Perm m.common.extra

/-- The document of the node has the same entries in another order. -/
theorem Node.Reordered.entries_perm {n m : Node} (h : n.Reordered m) :
    n.entries.Perm m.entries := by
  have hwritten : m.common.written = n.common.written := by
    rw [h.common]
    rfl
  rw [Node.entries, Node.entries, kind, kind, h.detail, m.common.entries_eq_append,
    n.common.entries_eq_append, hwritten]
  exact ((h.extra.append_left _).append_right _).cons _

namespace Node

variable {n : Node}

/-- **What is written is told apart by its keys**: the fields of all
nodes, the unknown ones and those of the type. -/
theorem KeepsUnknown.filter_entries (h : n.KeepsUnknown) :
    ((n.common.entries ++ n.detail.entries).filter fun e => Common.known.contains e.1) =
        n.common.written ∧
      ((n.common.entries ++ n.detail.entries).filter fun e => n.detail.known.contains e.1) =
        n.detail.entries ∧
      unknownTo n.detail (n.common.entries ++ n.detail.entries) = n.common.extra := by
  have hwritten : ∀ e ∈ n.common.written, e.1 ∈ Common.known := fun e he =>
    n.common.keys_written_sublist.subset (List.mem_map_of_mem he)
  have hdetail : ∀ e ∈ n.detail.entries, e.1 ∈ n.detail.known := fun e he =>
    n.detail.keys_entries_sublist.subset (List.mem_map_of_mem he)
  have hextra : ∀ e ∈ n.common.extra, e.1 ∉ Common.known ∧ e.1 ∉ n.detail.known := by
    intro e he
    have := h.unknown e he
    simp_all [Common.known]
  have hapart : ∀ k ∈ Common.known, k ∉ n.detail.known := fun k hk hk' =>
    (List.nodup_append.1 n.detail.nodup_known).2.2 k (List.mem_cons_of_mem "type" hk) k hk' rfl
  have keep {p : String × Json → Bool} {es : Entries} (hes : ∀ e ∈ es, p e = true) :
      es.filter p = es := List.filter_eq_self.2 hes
  have drop {p : String × Json → Bool} {es : Entries} (hes : ∀ e ∈ es, p e = false) :
      es.filter p = [] := List.filter_eq_nil_iff.2 (by simpa using hes)
  rw [n.common.entries_eq_append, unknownTo]
  simp only [List.filter_append]
  refine ⟨?_, ?_, ?_⟩
  · rw [keep fun e he => by simpa using hwritten e he,
      drop fun e he => by simpa using (hextra e he).1,
      drop fun e he => by simpa using fun hk => hapart _ hk (hdetail e he),
      List.append_nil, List.append_nil]
  · rw [drop fun e he => by simpa using hapart _ (hwritten e he),
      drop fun e he => by simpa using (hextra e he).2,
      keep fun e he => by simpa using hdetail e he, List.nil_append, List.nil_append]
  · rw [drop fun e he => by simp [hwritten e he], keep fun e he => by simp [hextra e he],
      drop fun e he => by simp [hdetail e he], List.nil_append, List.append_nil]

/-- **A node is read as it is written**, up to the order of its unknown
fields. -/
theorem exists_ofJson?_toJson (hkeeps : n.KeepsUnknown) (hnamed : n.detail.Named) :
    ∃ m, ofJson? n.toJson = .ok m ∧ n.Reordered m := by
  obtain ⟨hcommon, hdetail, hunknown⟩ := hkeeps.filter_entries
  have hp : (Entries.removeSwapping "type" n.entries).Perm
      (n.common.entries ++ n.detail.entries) := by
    obtain ⟨htype, -⟩ := List.nodup_cons.1 hkeeps.keyed_toJson.1
    have hfilter : n.entries.filter (fun e => e.1 ≠ "type") =
        n.common.entries ++ n.detail.entries := by
      rw [Node.entries, List.filter_cons_of_neg (by simp), List.filter_eq_self]
      intro e he
      have : e.1 ≠ "type" := fun hk => htype (List.mem_map.2 ⟨e, he, hk⟩)
      simpa using this
    exact hfilter ▸ Entries.removeSwapping_perm hkeeps.keyed_toJson.1
  have htype : typeOf? n.entries = .ok n.kind := by
    rw [typeOf?, Node.entries, Entries.find?, if_pos rfl]
  have hread : readDetail n.kind (Entries.removeSwapping "type" n.entries) = .ok n.detail :=
    Detail.readDetail_of_perm hnamed (hdetail ▸ hp.filter _)
  have hfields : readFields Common.fields { aside := !n.detail.known.isEmpty } {}
      (Entries.removeSwapping "type" n.entries) = .ok { n.common with extra := [] } :=
    readFields_of_perm (by simp [Common.fields, Decoder.Field.of]) Common.commutes_fields
      (hcommon ▸ hp.filter _) (n.common.readFields_written _)
  refine ⟨{ detail := n.detail, common := { n.common with
    extra := unknownTo n.detail (Entries.removeSwapping "type" n.entries) } }, ?_, ?_⟩
  · change ofJson? (.object n.entries) = _
    rw [ofJson?, htype]
    refine mapError_eq_ok_iff.2 ?_
    exact bind_eq_ok_iff.2 ⟨_, hread, bind_eq_ok_iff.2 ⟨_, hfields, rfl⟩⟩
  · exact ⟨rfl, rfl, hunknown ▸ (hp.filter _).symm⟩

end Node

/-! ## Depth -/

theorem Connection.depth_toJson_le (c : Connection) : c.toJson.depth ≤ 1 := by
  rcases c with ⟨target, _ | label, _ | sourcePort, _ | targetPort⟩ <;> exact Nat.le_refl 1

theorem Skill.depth_toJson_le (s : Skill) : s.toJson.depth ≤ 1 := by
  obtain ⟨id, name, icon⟩ := s
  by_cases hicon : icon = ""
  · rw [hicon]
    exact Nat.le_refl 1
  · rw [Skill.toJson, if_neg hicon]
    exact Nat.le_refl 1

/-- What a type writes is two levels deep at most. -/
theorem Detail.depth_entries_le (d : Detail) : ∀ e ∈ d.entries, e.2.depth ≤ 2 := by
  rcases d with key | skills | key | _ | ⟨markdown, position⟩ | kind
  all_goals intro e he
  · obtain rfl := List.mem_singleton.1 he
    exact Nat.zero_le _
  · obtain rfl := List.mem_singleton.1 he
    refine Nat.succ_le_succ (Json.depthEntries_le_iff.2 fun s hs => ?_)
    obtain ⟨x, -, rfl⟩ := List.mem_map.1 hs
    exact x.2.depth_toJson_le
  · obtain rfl := List.mem_singleton.1 he
    exact Nat.zero_le _
  · exact absurd he List.not_mem_nil
  · rcases List.mem_cons.1 he with rfl | he
    · exact Nat.zero_le _
    · rw [Option.mem_toList] at he
      obtain ⟨p, -, rfl⟩ := Option.map_eq_some_iff.1 he
      exact Nat.le_succ 1
  · exact absurd he List.not_mem_nil

theorem Common.depth_written_le (c : Common) : ∀ e ∈ c.written, e.2.depth ≤ 2 := by
  intro e he
  rcases List.mem_append.1 he with he | he
  · split at he
    · cases he
    · obtain rfl := List.mem_singleton.1 he
      exact Nat.zero_le _
  rcases List.mem_cons.1 he with rfl | he
  · refine Nat.succ_le_succ (Json.depthItems_le_iff.2 fun x hx => ?_)
    obtain ⟨c, -, rfl⟩ := List.mem_map.1 hx
    exact c.depth_toJson_le
  · rw [Option.mem_toList] at he
    obtain ⟨p, -, rfl⟩ := Option.map_eq_some_iff.1 he
    exact Nat.zero_le _

/-- **The document of a node is as deep as what it keeps**, or three
levels. -/
theorem Node.depth_toJson_le {n : Node} {levels : Nat} (hlevels : 2 ≤ levels)
    (h : ∀ e ∈ n.common.extra, e.2.depth ≤ levels) : n.toJson.depth ≤ levels + 1 := by
  refine Nat.succ_le_succ (Json.depthEntries_le_iff.2 (List.forall_mem_cons.2
    ⟨Nat.zero_le _, fun e he => ?_⟩))
  rw [n.common.entries_eq_append] at he
  rcases List.mem_append.1 he with he | he
  · rcases List.mem_append.1 he with he | he
    · exact Nat.le_trans (n.common.depth_written_le e he) hlevels
    · exact h e he
  · exact Nat.le_trans (n.detail.depth_entries_le e he) hlevels

/-! ## Sources that were read -/

/-- **A node as the reader gives it.** -/
structure Node.WasRead (n : Node) : Prop where
  /-- It keeps what it does not know. -/
  keeps : n.KeepsUnknown
  /-- A type of its own is named as such. -/
  named : n.detail.Named
  /-- Its document is less deep than a source may be. -/
  depth : n.toJson.depth < Json.depthLimit

variable {text : String} {s : Source}

/-- **Every node of a source was read.** -/
theorem wasRead_of_ofText? (h : ofText? text = .ok s) : ∀ n ∈ s.nodes, n.2.WasRead := by
  obtain ⟨es, hes, hnodes⟩ := exists_of_ofText? h
  intro n hn
  obtain ⟨j, hmem, hj⟩ := Node.exists_of_readNodes hnodes n hn
  have hkeyed := Json.keyedEntries_iff.1 (Json.keyed_of_ofText? hes).2 _ hmem
  obtain ⟨fs, rfl, -, hread⟩ := Node.exists_of_ofJson? hj
  -- two levels are taken by the source and the node
  have hdepth : ∀ e ∈ fs, e.2.depth ≤ 125 :=
    Json.depth_le_of_mem (Json.depth_le_of_mem (Json.depth_le_of_ofText? hes) _ hmem)
  refine ⟨Node.keepsUnknown_of_ofJson? hkeyed hj,
    Detail.named_of_readDetail (Node.of_ofEntries? hread).1, Nat.lt_succ_of_le
      (Node.depth_toJson_le (by decide) fun e he => hdepth e ?_)⟩
  exact (List.mem_filter.1 ((Node.extra_perm hkeyed.1 hj).mem_iff.1 he)).1

/-- The document of a source can be read: no key is repeated, and it is
not too deep. -/
theorem keyed_toJson_of_ofText? (h : ofText? text = .ok s) :
    s.toJson.Keyed ∧ s.toJson.depth ≤ Json.depthLimit := by
  have hnodes := wasRead_of_ofText? h
  obtain ⟨es, hes, hread⟩ := exists_of_ofText? h
  refine ⟨⟨?_, Json.keyedEntries_iff.2 fun e he => ?_⟩,
    Nat.succ_le_succ (Json.depthEntries_le_iff.2 fun e he => ?_)⟩
  · have hkeys : Entries.keys (s.nodes.map fun n => (n.1, n.2.toJson)) = Entries.keys es := by
      rw [Node.keys_of_readNodes hread, Entries.keys, List.map_map]
      rfl
    rw [Entries.Distinct, hkeys]
    exact (Json.keyed_of_ofText? hes).1
  · obtain ⟨n, hn, rfl⟩ := List.mem_map.1 he
    exact (hnodes n hn).keeps.keyed_toJson
  · obtain ⟨n, hn, rfl⟩ := List.mem_map.1 he
    exact Nat.le_of_lt_succ (hnodes n hn).depth

/-- **A source with the unknown fields of its nodes in another order.** -/
def Reordered (s t : Source) : Prop :=
  List.Forall₂ (fun n m => n.1 = m.1 ∧ n.2.Reordered m.2) s.nodes t.nodes

theorem exists_ofJson?_toJson (h : ∀ n ∈ s.nodes, n.2.WasRead) :
    ∃ t, ofJson? s.toJson = .ok t ∧ s.Reordered t := by
  obtain ⟨nodes⟩ := s
  suffices hread : ∃ ms, readNodes (nodes.map fun n => (n.1, n.2.toJson)) = .ok ms ∧
      List.Forall₂ (fun n m => n.1 = m.1 ∧ n.2.Reordered m.2) nodes ms by
    obtain ⟨ms, hms, hsame⟩ := hread
    exact ⟨⟨ms⟩, map_eq_ok_iff.2 ⟨ms, hms, rfl⟩, hsame⟩
  induction nodes with
  | nil => exact ⟨[], rfl, .nil⟩
  | cons n nodes ih =>
    obtain ⟨hn, hnodes⟩ := List.forall_mem_cons.1 h
    obtain ⟨m, hm, hsame⟩ := Node.exists_ofJson?_toJson hn.keeps hn.named
    obtain ⟨ms, hms, hrest⟩ := ih hnodes
    refine ⟨(n.1, m) :: ms, ?_, .cons ⟨rfl, hsame⟩ hrest⟩
    rw [List.map_cons, readNodes, hm]
    exact map_eq_ok_iff.2 ⟨ms, hms, rfl⟩

end Source

namespace Graph

/-- **A node made of a source in another order**: its configuration has
the same entries, with the same values, in another order. -/
structure Node.Reordered (n m : Node) : Prop where
  /-- All but the configuration is the same. -/
  others : m = { n with payload := m.payload }
  /-- The configurations have the same entries. -/
  payload : ∃ es fs : Entries, n.payload = (Json.object es).compact ∧
    m.payload = (Json.object fs).compact ∧ es.Perm fs

/-- **An edge with another identifier.** -/
def Edge.Renamed (e f : Edge) : Prop :=
  f = { e with id := f.id }

/-- **A graph made anew**: its edges have other identifiers, and the
configurations of its nodes another order. -/
structure Remade (g g' : Graph) : Prop where
  /-- The nodes correspond in order. -/
  nodes : List.Forall₂ Node.Reordered g.nodes g'.nodes
  /-- The edges correspond in order. -/
  edges : List.Forall₂ Edge.Renamed g.edges g'.edges

theorem Node.reordered_ofSource {n m : Source.Node} (h : n.Reordered m) (workflowId : Uuid)
    (id : String) : (Node.ofSource workflowId id n).Reordered (.ofSource workflowId id m) := by
  refine ⟨?_, n.entries, m.entries, rfl, rfl, h.entries_perm⟩
  rw [ofSource, ofSource, Source.Node.kind, Source.Node.kind, Source.Node.position?,
    Source.Node.position?, h.detail, congrArg Source.Common.label h.common]

theorem connections_of_reordered {s t : Source} (h : s.Reordered t) :
    connections s = connections t := by
  have each (n m : String × Source.Node) (hn : n.1 = m.1 ∧ n.2.Reordered m.2) :
      n.2.common.connections.map (fun c => (n.1, c)) =
        m.2.common.connections.map fun c => (m.1, c) := by
    rw [hn.1, congrArg Source.Common.connections hn.2.common]
  have hmap := List.forall₂_map_left_iff.2 (List.forall₂_map_right_iff.2 (h.imp each))
  rw [List.forall₂_eq_eq_eq] at hmap
  rw [connections, connections, List.flatMap, List.flatMap, hmap]

/-- **Sources that differ in order only make the same graph.** -/
theorem remade_ofSource {s t : Source} (h : s.Reordered t) (ids ids' : Nat → Uuid)
    (workflowId : Uuid) : (ofSource ids workflowId s).Remade (ofSource ids' workflowId t) := by
  refine ⟨?_, ?_⟩
  · refine List.forall₂_map_left_iff.2 (List.forall₂_map_right_iff.2 (h.imp fun n m hn => ?_))
    rw [hn.1]
    exact Node.reordered_ofSource hn.2 workflowId m.1
  · rw [ofSource, ofSource, connections_of_reordered h]
    refine List.forall₂_iff_get.2 ⟨by simp, fun i hi hi' => ?_⟩
    simp [Edge.Renamed, Edge.ofConnection]

end Graph

namespace Source

/-- **Sources survive a round trip.** A text that is read as a source is
written as one that is read as the same source, up to the order of the
unknown fields of each node, and that makes the same graph. Numbers are
assumed to be read as they are written. -/
theorem round_trip {text : String} {s : Source} (h : ofText? text = .ok s)
    (hexact : s.toJson.Exact) :
    ∃ t, ofText? s.toJson.compact = .ok t ∧ s.Reordered t ∧
      ∀ (ids ids' : Nat → Uuid) (workflowId : Uuid), ∃ g g',
        Graph.ofText? ids workflowId text = .ok g ∧
        Graph.ofText? ids' workflowId s.toJson.compact = .ok g' ∧ g.Remade g' := by
  obtain ⟨t, ht, hsame⟩ := exists_ofJson?_toJson (wasRead_of_ofText? h)
  obtain ⟨hkeyed, hdepth⟩ := keyed_toJson_of_ofText? h
  have hread : ofText? s.toJson.compact = .ok t := by
    rw [ofText?, Json.ofText?_compact_of_exact hkeyed hdepth hexact]
    exact ht
  refine ⟨t, hread, hsame, fun ids ids' workflowId => ?_⟩
  exact ⟨_, _, map_eq_ok_iff.2 ⟨s, h, rfl⟩, map_eq_ok_iff.2 ⟨t, hread, rfl⟩,
    Graph.remade_ofSource hsame ids ids' workflowId⟩

/-- An action whose type stands in the middle, with a connection that is
written as a sequence, and a note. -/
def sketchText : String :=
  "\x7b\"a\":\x7b\"retries\":3,\"to\":[[\"n\",\"then\"]],\"type\":\"action\"," ++
    "\"actionKey\":\"send\",\"on\":[\x7b\x7d]\x7d," ++
    "\"n\":\x7b\"type\":\"note\",\"position\":\x7b\"x\":12\x7d\x7d\x7d"

/-- What it is read as. -/
def sketch : Source where
  nodes := [
    ("a", {
      detail := .action "send"
      common := {
        connections := [{ target := "n", label := some "then" }]
        extra := [("retries", .ofInt 3), ("on", .array [.object []])] } }),
    ("n", { detail := .note "" (some { x := Binary64.ofInt 12 }) })]

theorem sketch_round_trip :
    ofText? sketchText = .ok sketch ∧ sketch.toJson.Exact ∧
      ∃ t, ofText? sketch.toJson.compact = .ok t ∧ sketch.Reordered t ∧
        ∀ (ids ids' : Nat → Uuid) (workflowId : Uuid), ∃ g g',
          Graph.ofText? ids workflowId sketchText = .ok g ∧
          Graph.ofText? ids' workflowId sketch.toJson.compact = .ok g' ∧ g.Remade g' := by
  have hread : ofText? sketchText = .ok sketch := by decide +kernel
  have hexact : sketch.toJson.Exact := by decide +kernel
  exact ⟨hread, hexact, round_trip hread hexact⟩

end Source

end Flowchart
