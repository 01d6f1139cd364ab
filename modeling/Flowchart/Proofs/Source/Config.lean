import Flowchart.Graph.Compile
import Flowchart.Proofs.Source.Keyed

/-!
# The configuration of a node is its source

A compiled node carries its source as text, and its configuration is
read from there. What a blind reader makes of a key is the same in both
(`readList?_config_iff`). So the configuration lists the connections
that the graph has edges for (`readList?_to`), and the branches that the
source configured (`readList?_branches`).
-/

namespace Flowchart

open Json (Entries Raw Decoder)

namespace Source

variable {α : Type} {d : Decoder α} {n : Node} {key : String}

/-- The entries of the document of a node. -/
def Node.entries (n : Node) : Entries :=
  ("type", .string n.kind) :: (n.common.entries ++ n.detail.entries)

/-- A connection is read as it is written. -/
theorem Connection.decoder_toJson (c : Connection) (levels : Nat) (aside : Bool) :
    Connection.decoder { levels := levels + 1, aside } (Raw.ofJson c.toJson) = .ok c := by
  rcases c with ⟨target, _ | label, _ | sourcePort, _ | targetPort⟩ <;> rfl

theorem items_connections (cs : List Connection) (levels : Nat) (aside : Bool) :
    Decoder.items Connection.decoder { levels := levels + 1, aside }
      (Raw.ofItems (cs.map (·.toJson))) = .ok cs := by
  induction cs with
  | nil => rfl
  | cons c cs ih =>
    rw [List.map_cons, Raw.ofItems, Decoder.items]
    simp only [Connection.decoder_toJson, ih]
    rfl

/-- Under a key that a node does not know stands what it kept. -/
theorem Node.find?_unknown
    (h : key ∉ ["type", "label", "to", "prompt"] ++ n.detail.known) :
    n.entries.find? key = n.common.extra.find? key := by
  have unknown : ∀ k ∈ ["type", "label", "to", "prompt"] ++ n.detail.known, key ≠ k :=
    fun k hk hkey => h (hkey ▸ hk)
  have hlabel : key ∉ Entries.keys
      (if n.common.label = "" then [] else [("label", .string n.common.label)]) := by
    split
    · exact List.not_mem_nil
    · exact fun hk => unknown "label" (by simp) (List.mem_singleton.1 hk)
  have hprompt : key ∉ Entries.keys
      (n.common.prompt.map fun p => ("prompt", Json.string p)).toList := by
    cases n.common.prompt with
    | none => exact List.not_mem_nil
    | some p => exact fun hk => unknown "prompt" (by simp) (List.mem_singleton.1 hk)
  have hdetail : key ∉ Entries.keys n.detail.entries := fun hk =>
    unknown key (List.mem_append_right _ (n.detail.keys_entries_sublist.subset hk)) rfl
  unfold Node.entries Common.entries
  rw [Entries.find?, if_neg (unknown "type" (by simp)).symm,
    Entries.find?_append_left hdetail, Entries.find?_append_right hlabel, Entries.find?,
    if_neg (unknown "to" (by simp)).symm, Entries.find?_append_right hprompt]

/-- The document of a node lists its connections. -/
theorem Node.find?_to (n : Node) :
    n.entries.find? "to" = some (.array (n.common.connections.map (·.toJson))) := by
  unfold Node.entries Common.entries
  rw [Entries.find?, if_neg (by decide)]
  split
  · rfl
  · rw [List.append_assoc, List.singleton_append, Entries.find?, if_neg (by decide)]
    rfl

/-- **A node's document gives its connections.** -/
theorem Node.readList?_to (n : Node) :
    Step.Branch.readList? { entries := n.entries } "to" Connection.decoder =
      .ok (some n.common.connections) := by
  have hread : Decoder.ofJson (.list Connection.decoder)
      (.array (n.common.connections.map (·.toJson))) = .ok n.common.connections :=
    items_connections _ 125 false
  have harray : NodeConfig.array? { entries := n.entries } "to" =
      .ok (some (n.common.connections.map (·.toJson))) := by
    rw [NodeConfig.array?, NodeConfig.get?, n.find?_to]
    rfl
  rw [Step.Branch.readList?, harray]
  simp only [hread]

/-- The branches that a node configures are among what it keeps. -/
theorem Node.readList?_branches (n : Node) (d : Decoder α) :
    Step.Branch.readList? { entries := n.entries } "branches" d =
      Step.Branch.readList? { entries := n.common.extra } "branches" d := by
  have unknown : "branches" ∉ ["type", "label", "to", "prompt"] ++ n.detail.known := by
    cases n.detail <;> simp [Detail.known]
  unfold Step.Branch.readList? NodeConfig.array? NodeConfig.get?
  simp only [Node.find?_unknown unknown]

end Source

namespace Graph.Node

open Source (Connection)

variable {workflowId : Uuid} {id : String} {n : Source.Node} {c : NodeConfig}

/-- A node is never written as a blank text. -/
theorem not_allBlank_payload (workflowId : Uuid) (id : String) (n : Source.Node) :
    Text.allBlank (Node.ofSource workflowId id n).payload = false := by
  obtain ⟨text, htext⟩ : ∃ text, n.toJson.compactChars = '\x7b' :: text :=
    ⟨_, by rw [Source.Node.toJson, Json.compactChars]⟩
  change Text.allBlank (String.ofList n.toJson.compactChars) = false
  rw [htext, Text.allBlank, String.toList_ofList, List.all_cons]
  rfl

/-- **The configuration of a compiled node is its source**, apart from
numbers. -/
theorem alike_of_config? (hn : n.toJson.Keyed)
    (h : (Node.ofSource workflowId id n).config? = .ok c) :
    Json.Alike c.entries n.entries := by
  unfold config? NodeConfig.ofText? at h
  rw [not_allBlank_payload, if_neg (by simp)] at h
  split at h
  · next j hj =>
    -- the text is the document of the node, and what is read of it is an object again
    have hraw : Raw.ofJson j = Raw.reread n.toJson := Json.ofJson_of_ofText?_compact hn hj
    have hblind := Json.blind_reread n.toJson
    rw [← hraw] at hblind
    cases j with
    | object es =>
      obtain rfl := Except.ok.inj h
      exact Raw.object.inj hblind
    | null => cases hblind
    | bool | number | string | array => cases h
  · cases h

/-- What a blind reader makes of the configuration of a compiled node is
what it makes of the source. -/
theorem readList?_config_iff {α : Type} {d : Decoder α} (hd : d.Blind) (hn : n.toJson.Keyed)
    (h : (Node.ofSource workflowId id n).config? = .ok c) {key : String}
    {values? : Option (List α)} :
    Step.Branch.readList? c key d = .ok values? ↔
      Step.Branch.readList? { entries := n.entries } key d = .ok values? := by
  have halike := alike_of_config? hn h
  exact ⟨Step.Branch.readList?_of_alike hd halike,
    Step.Branch.readList?_of_alike hd halike.symm⟩

/-- **The branches of a compiled node** are those that its source
configures, else one for each connection of the source. -/
theorem branches_of_config? (hn : n.toJson.Keyed)
    (h : (Node.ofSource workflowId id n).config? = .ok c) {branches : List Step.Branch}
    (hb : Step.Branch.ofConfig? c = .ok branches) :
    Step.Branch.readList? { entries := n.common.extra } "branches" Step.Branch.decoder =
        .ok (some branches) ∨
      branches = n.common.connections.map Step.Branch.ofConnection := by
  obtain ⟨configured?, hconfigured, hb⟩ := bind_eq_ok_iff.1 hb
  have hsource := (readList?_config_iff Json.blind_branch hn h).1 hconfigured
  cases configured? with
  | some configured =>
    obtain rfl := Except.ok.inj hb
    exact .inl (n.readList?_branches _ ▸ hsource)
  | none =>
    -- the configuration lists the connections of the source, whatever its numbers
    have hto := (readList?_config_iff Json.blind_connection hn h).2 n.readList?_to
    simp only [hto] at hb
    exact .inr (Except.ok.inj hb).symm

end Graph.Node

end Flowchart
