import Flowchart.Proofs.Json.Blind
import Flowchart.Source

/-!
# Nodes of a source have distinct keys

What a node keeps of its object never takes the name of a field it
knows (`Node.KeepsUnknown`), so the document of a node that was read has
no key twice (`keyed_of_ofText?`): its type, the common fields, the
unknown ones and those of its type are all apart.
-/

namespace Flowchart

namespace Json

/-- An object of fields has their names as its keys. -/
theorem keyed_ofFields {fields : List (String × Option Json)} (hn : (fields.map (·.1)).Nodup)
    (hv : ∀ f ∈ fields, ∀ v ∈ f.2, v.Keyed) : (ofFields fields).Keyed := by
  refine ⟨?_, keyedEntries_iff.2 fun e he => ?_⟩
  · refine hn.sublist ?_
    induction fields with
    | nil => exact .slnil
    | cons f fields ih =>
      have hrest := ih (List.nodup_cons.1 hn).2 fun g hg => hv g (List.mem_cons_of_mem f hg)
      obtain ⟨name, _ | v⟩ := f
      · exact hrest.cons name
      · exact hrest.cons_cons name
  · obtain ⟨f, hf, hfe⟩ := List.mem_filterMap.1 he
    obtain ⟨v, hv', rfl⟩ := Option.map_eq_some_iff.1 hfe
    exact hv f hf v hv'

end Json

namespace Source

open Json

variable {n : Node} {es : Entries}

/-! ## Parts of a node -/

theorem Connection.keyed_toJson (c : Connection) : c.toJson.Keyed := by
  refine keyed_ofFields (by simp) fun f hf v hv => ?_
  simp only [List.mem_cons, List.not_mem_nil, or_false] at hf
  rcases hf with rfl | rfl | rfl | rfl
  · obtain rfl := Option.some.inj hv
    trivial
  all_goals
    obtain ⟨s, -, rfl⟩ := Option.map_eq_some_iff.1 hv
    trivial

theorem Skill.keyed_toJson (s : Skill) : s.toJson.Keyed := by
  refine keyed_ofFields (by simp) fun f hf v hv => ?_
  simp only [List.mem_cons, List.not_mem_nil, or_false] at hf
  rcases hf with rfl | rfl | rfl
  · obtain rfl := Option.some.inj hv
    trivial
  · obtain rfl := Option.some.inj hv
    trivial
  · dsimp only at hv
    split at hv
    · cases hv
    · obtain rfl := Option.some.inj hv
      trivial

theorem Position.keyed_toJson (p : Position) : p.toJson.Keyed :=
  ⟨by simp [Entries.Distinct, Entries.keys], trivial, trivial, trivial⟩

namespace Detail

variable (d : Detail)

/-- A type writes fields that it knows. -/
theorem keys_entries_sublist : (Entries.keys d.entries).Sublist d.known := by
  rcases d with key | skills | key | _ | ⟨markdown, _ | position⟩ | kind
  case note.none => exact (List.nil_sublist _).cons_cons _
  all_goals exact .refl _

/-- No type knows a field of all nodes, nor one twice. -/
theorem nodup_known : (["type", "label", "to", "prompt"] ++ d.known).Nodup := by
  cases d <;> simp [known]

/-- A type is read by its name. -/
theorem kind_of_readDetail {kind : String} {d : Detail} (h : Node.readDetail kind es = .ok d) :
    d.kind = kind := by
  unfold Node.readDetail at h
  split at h
  case h_4 | h_6 =>
    obtain rfl := Except.ok.inj h
    rfl
  all_goals
    obtain ⟨x, -, rfl⟩ := map_eq_ok_iff.1 h
    rfl

theorem keyed_entries : ∀ e ∈ d.entries, e.2.Keyed := by
  rcases d with key | skills | key | _ | ⟨markdown, position⟩ | kind
  all_goals intro e he
  · obtain rfl := List.mem_singleton.1 he
    trivial
  · obtain rfl := List.mem_singleton.1 he
    refine ⟨?_, keyedEntries_iff.2 fun s hs => ?_⟩
    · simpa [Entries.Distinct, Entries.keys, Function.comp_def] using skills.nodup_keys
    · obtain ⟨x, -, rfl⟩ := List.mem_map.1 hs
      exact x.2.keyed_toJson
  · obtain rfl := List.mem_singleton.1 he
    trivial
  · exact absurd he List.not_mem_nil
  · rcases List.mem_cons.1 he with rfl | he
    · trivial
    · rw [Option.mem_toList] at he
      obtain ⟨p, -, rfl⟩ := Option.map_eq_some_iff.1 he
      exact p.keyed_toJson
  · exact absurd he List.not_mem_nil

end Detail

namespace Common

variable (c : Common)

/-- The fields of all nodes that are written. -/
def written : Entries :=
  (if c.label = "" then [] else [("label", .string c.label)]) ++
    ("to", .array (c.connections.map (·.toJson))) ::
    (c.prompt.map fun p => ("prompt", Json.string p)).toList

theorem entries_eq_append : c.entries = c.written ++ c.extra := by
  rw [entries, written, List.append_assoc, List.cons_append]

/-- They are fields that all nodes know. -/
theorem keys_written_sublist : (Entries.keys c.written).Sublist known := by
  have hlabel : (Entries.keys (if c.label = "" then [] else [("label", .string c.label)])).Sublist
      ["label"] := by
    split
    · exact List.nil_sublist _
    · exact .refl _
  have hprompt : (Entries.keys (c.prompt.map fun p => ("prompt", Json.string p)).toList).Sublist
      ["prompt"] := by
    cases c.prompt with
    | none => exact List.nil_sublist _
    | some p => exact .refl _
  rw [written, Entries.keys, List.map_append, List.map_cons]
  exact hlabel.append (hprompt.cons_cons "to")

end Common

/-! ## Whole nodes -/

namespace Node

/-- **What a node keeps of its object**: entries with distinct keys, none
of which is the type or a field it knows. -/
structure KeepsUnknown (n : Node) : Prop where
  /-- The keys are distinct. -/
  distinct : Entries.Distinct n.common.extra
  /-- None is that of a field the node knows. -/
  unknown : ∀ e ∈ n.common.extra, e.1 ∉ ["type", "label", "to", "prompt"] ++ n.detail.known
  /-- No key is repeated further inside. -/
  keyed : ∀ e ∈ n.common.extra, e.2.Keyed

theorem keyed_common (h : n.KeepsUnknown) : ∀ e ∈ n.common.entries, e.2.Keyed := by
  intro e he
  rcases List.mem_append.1 he with he | he
  · split at he
    · cases he
    · obtain rfl := List.mem_singleton.1 he
      trivial
  rcases List.mem_cons.1 he with rfl | he
  · refine keyedItems_iff.2 fun x hx => ?_
    obtain ⟨c, -, rfl⟩ := List.mem_map.1 hx
    exact c.keyed_toJson
  rcases List.mem_append.1 he with he | he
  · rw [Option.mem_toList] at he
    obtain ⟨p, -, rfl⟩ := Option.map_eq_some_iff.1 he
    trivial
  · exact h.keyed e he

/-- **The document of a node has no key twice.** -/
theorem KeepsUnknown.keyed_toJson (h : n.KeepsUnknown) : n.toJson.Keyed := by
  refine ⟨?_, keyedEntries_iff.2 fun e he => ?_⟩
  · have apart : (Entries.keys n.common.extra ++
        (["type", "label", "to", "prompt"] ++ n.detail.known)).Nodup := by
      refine List.nodup_append.2 ⟨h.distinct, n.detail.nodup_known, fun k hk l hl heq => ?_⟩
      obtain ⟨e, he, rfl⟩ := List.mem_map.1 hk
      exact h.unknown e he (heq ▸ hl)
    -- the document has the unknown fields before those of the type
    have inOrder : (["type", "label", "to", "prompt"] ++
        (Entries.keys n.common.extra ++ n.detail.known)).Nodup := by
      refine (List.Perm.nodup_iff ?_).1 apart
      rw [← List.append_assoc, ← List.append_assoc]
      exact List.perm_append_comm.append_right _
    refine inOrder.sublist ?_
    rw [n.common.entries_eq_append, Entries.keys, List.map_cons, List.append_assoc,
      List.map_append, List.map_append]
    exact ((n.common.keys_written_sublist.append
      ((List.Sublist.refl _).append n.detail.keys_entries_sublist)).cons_cons "type")
  · rcases List.mem_cons.1 he with rfl | he
    · trivial
    rcases List.mem_append.1 he with he | he
    · exact keyed_common h e he
    · exact n.detail.keyed_entries e he

/-! ## Nodes that were read -/

/-- What a node that was read is made of. -/
theorem of_ofEntries? {kind : String} (h : ofEntries? kind es = .ok n) :
    readDetail kind es = .ok n.detail ∧
      ∃ c, readFields Common.fields { aside := !n.detail.known.isEmpty } {} es = .ok c ∧
        n.common = { c with extra := unknownTo n.detail es } := by
  obtain ⟨detail, hdetail, h⟩ := bind_eq_ok_iff.1 h
  obtain ⟨c, hc, h⟩ := bind_eq_ok_iff.1 h
  obtain rfl := Except.ok.inj h
  exact ⟨hdetail, c, hc, rfl⟩

/-- A node is read from an object. -/
theorem exists_of_ofJson? {j : Json} (h : ofJson? j = .ok n) :
    ∃ es, j = .object es ∧ typeOf? es = .ok n.kind ∧
      ofEntries? n.kind (Entries.removeSwapping "type" es) = .ok n := by
  cases j with
  | object es =>
    rw [ofJson?] at h
    split at h
    · cases h
    · next kind hkind =>
      have hn := mapError_eq_ok_iff.1 h
      have hdetail := (of_ofEntries? hn).1
      obtain rfl : n.kind = kind := Detail.kind_of_readDetail hdetail
      exact ⟨es, rfl, hkind, hn⟩
  | null | bool | number | string | array => cases h

/-- **A node keeps the entries of its object that it does not know.** -/
theorem extra_perm (hdistinct : Entries.Distinct es) (h : ofJson? (.object es) = .ok n) :
    n.common.extra.Perm (es.filter fun e =>
      !(["type", "label", "to", "prompt"] ++ n.detail.known).contains e.1) := by
  obtain ⟨_, heq, -, hn⟩ := exists_of_ofJson? h
  obtain rfl := Json.object.inj heq
  obtain ⟨-, c, -, hcommon⟩ := of_ofEntries? hn
  have hextra : n.common.extra = unknownTo n.detail (Entries.removeSwapping "type" es) := by
    rw [hcommon]
  have hswap : (Entries.removeSwapping "type" es).Perm (es.filter fun e => e.1 ≠ "type") :=
    Entries.removeSwapping_perm hdistinct
  rw [hextra, unknownTo]
  refine (hswap.filter _).trans (.of_eq ?_)
  rw [List.filter_filter]
  refine List.filter_congr fun e _ => ?_
  by_cases htype : e.1 = "type" <;> simp [Common.known, htype, Bool.and_assoc]

/-- **A node that was read keeps what it does not know.** -/
theorem keepsUnknown_of_ofJson? {j : Json} (hj : j.Keyed) (h : ofJson? j = .ok n) :
    n.KeepsUnknown := by
  obtain ⟨es, rfl, -⟩ := exists_of_ofJson? h
  have hextra := extra_perm hj.1 h
  refine ⟨(hj.1.sublist List.filter_sublist).perm hextra.symm, fun e he => ?_, fun e he => ?_⟩
  · simpa using (List.mem_filter.1 (hextra.mem_iff.1 he)).2
  · exact keyedEntries_iff.1 hj.2 e (List.mem_filter.1 (hextra.mem_iff.1 he)).1

/-- **Nodes are read in order**, each from the document that stands under
its identifier. -/
theorem forall₂_of_readNodes {es : Entries} {nodes : List (String × Node)}
    (h : readNodes es = .ok nodes) :
    List.Forall₂ (fun e n => e.1 = n.1 ∧ ofJson? e.2 = .ok n.2) es nodes := by
  induction es generalizing nodes with
  | nil =>
    obtain rfl := Except.ok.inj h
    exact .nil
  | cons e es ih =>
    rw [readNodes] at h
    split at h
    · cases h
    · next node hnode =>
      obtain ⟨rest, hrest, rfl⟩ := map_eq_ok_iff.1 h
      exact .cons ⟨rfl, hnode⟩ (ih hrest)

/-- The identifiers are the keys of the object. -/
theorem keys_of_readNodes {es : Entries} {nodes : List (String × Node)}
    (h : readNodes es = .ok nodes) : Entries.keys es = nodes.map (·.1) := by
  have hread := forall₂_of_readNodes h
  clear h
  induction hread with
  | nil => rfl
  | cons he _ ih => exact congrArg₂ List.cons he.1 ih

/-- A node was read from a document of the object. -/
theorem exists_of_readNodes {es : Entries} {nodes : List (String × Node)}
    (h : readNodes es = .ok nodes) : ∀ n ∈ nodes, ∃ j, (n.1, j) ∈ es ∧ ofJson? j = .ok n.2 := by
  have hread := forall₂_of_readNodes h
  clear h
  induction hread with
  | nil => exact fun n hn => absurd hn List.not_mem_nil
  | cons he _ ih =>
    obtain ⟨hid, hj⟩ := he
    refine List.forall_mem_cons.2 ⟨⟨_, ?_, hj⟩, fun n hn => ?_⟩
    · rw [← hid]
      exact List.mem_cons_self
    · obtain ⟨j, hmem, hj⟩ := ih n hn
      exact ⟨j, List.mem_cons_of_mem _ hmem, hj⟩

end Node

/-- A source is read from an object of nodes. -/
theorem exists_of_ofText? {text : String} {s : Source} (h : ofText? text = .ok s) :
    ∃ es, Json.ofText? text = some (.object es) ∧ readNodes es = .ok s.nodes := by
  unfold ofText? at h
  split at h
  · next j hj =>
    cases j with
    | object es =>
      obtain ⟨nodes, hnodes, rfl⟩ := map_eq_ok_iff.1 h
      exact ⟨es, hj, hnodes⟩
    | null | bool | number | string | array => cases h
  · cases h

/-- **The nodes of a source that was read have documents without repeated
keys.** -/
theorem keyed_of_ofText? {text : String} {s : Source} (h : ofText? text = .ok s) :
    ∀ n ∈ s.nodes, n.2.toJson.Keyed := by
  obtain ⟨es, hes, hnodes⟩ := exists_of_ofText? h
  intro n hn
  obtain ⟨j, hmem, hj⟩ := Node.exists_of_readNodes hnodes n hn
  have hkeyed := keyedEntries_iff.1 (Json.keyed_of_ofText? hes).2 _ hmem
  exact (Node.keepsUnknown_of_ofJson? hkeyed hj).keyed_toJson

end Source

end Flowchart
