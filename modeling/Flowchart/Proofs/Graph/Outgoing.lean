import Flowchart.Graph.Compile
import Flowchart.Proofs.Source.Keyed

/-!
# The edges of a node are its connections

The nodes of a source that was read have names of their own
(`nodup_ids_of_ofText?`). So the graph of a source finds every node under
its name (`node?_ofSource`), and the edges that leave it are those of its
connections, in their order (`forall₂_outgoing`).
-/

namespace Flowchart

namespace Source

variable {text : String} {s : Source} {m : String × Node}

/-- **The nodes of a source that was read have names of their own.** -/
theorem nodup_ids_of_ofText? (h : ofText? text = .ok s) : (s.nodes.map (·.1)).Nodup := by
  obtain ⟨es, hes, hnodes⟩ := exists_of_ofText? h
  rw [← Node.keys_of_readNodes hnodes]
  exact (Json.keyed_of_ofText? hes).1

/-- A node is the first one of its name, as no other has it. -/
theorem find?_of_nodup {nodes : List (String × Node)} (hnodup : (nodes.map (·.1)).Nodup)
    (hm : m ∈ nodes) : nodes.find? (·.1 == m.1) = some m := by
  induction nodes with
  | nil => exact absurd hm List.not_mem_nil
  | cons a nodes ih =>
    obtain ⟨ha, hrest⟩ := List.nodup_cons.1 hnodup
    rcases List.mem_cons.1 hm with rfl | hm
    · exact List.find?_cons_of_pos (beq_self_eq_true _)
    · have hne : a.1 ≠ m.1 := fun heq => ha (List.mem_map.2 ⟨m, hm, heq.symm⟩)
      rw [List.find?_cons_of_neg (by simpa using hne)]
      exact ih hrest hm

end Source

namespace Graph

variable {ids : Nat → Uuid} {workflowId : Uuid} {s : Source} {m : String × Source.Node}

/-- **A graph finds the nodes of its source** under their names. -/
theorem node?_ofSource (hnodup : (s.nodes.map (·.1)).Nodup) (hm : m ∈ s.nodes) :
    (ofSource ids workflowId s).node? m.1 = some (.ofSource workflowId m.1 m.2) := by
  change (s.nodes.map fun n => Node.ofSource workflowId n.1 n.2).find? (·.id == m.1) = _
  rw [List.find?_map]
  exact congrArg (Option.map _) (Source.find?_of_nodup hnodup hm)

/-- The edge is that of a connection. -/
def Edge.IsOf (e : Edge) (workflowId : Uuid) (source : String) (c : Source.Connection) : Prop :=
  ∃ id, e = .ofConnection workflowId source id c

/-- The edges of a graph are those of the connections, in order. -/
theorem forall₂_edges (ids : Nat → Uuid) (workflowId : Uuid) (s : Source) :
    List.Forall₂ (fun e (c : String × Source.Connection) => e.IsOf workflowId c.1 c.2)
      (ofSource ids workflowId s).edges (connections s) := by
  refine List.forall₂_iff_get.2 ⟨List.length_mapIdx, fun i h₁ h₂ => ⟨ids i, ?_⟩⟩
  simp [ofSource]

/-- A node lists its connections under its own name. -/
theorem filter_own (a : String × Source.Node) (name : String) :
    (a.2.common.connections.map fun c => (a.1, c)).filter (·.1 == name) =
      if a.1 = name then a.2.common.connections.map fun c => (a.1, c) else [] := by
  split
  · next h =>
    refine List.filter_eq_self.2 fun c hc => ?_
    obtain ⟨c, -, rfl⟩ := List.mem_map.1 hc
    exact beq_iff_eq.2 h
  · next h =>
    refine List.filter_eq_nil_iff.2 fun c hc => ?_
    obtain ⟨c, -, rfl⟩ := List.mem_map.1 hc
    exact fun heq => h (eq_of_beq heq)

/-- **Of all connections those of a node** are picked by its name. -/
theorem filter_connections (hnodup : (s.nodes.map (·.1)).Nodup) (hm : m ∈ s.nodes) :
    (connections s).filter (·.1 == m.1) = m.2.common.connections.map fun c => (m.1, c) := by
  obtain ⟨nodes⟩ := s
  rw [connections, List.filter_flatMap]
  simp only [filter_own]
  induction nodes with
  | nil => exact absurd hm List.not_mem_nil
  | cons a nodes ih =>
    obtain ⟨ha, hrest⟩ := List.nodup_cons.1 hnodup
    rw [List.flatMap_cons]
    rcases List.mem_cons.1 hm with rfl | hm
    · -- no other node has the name
      have hnone : ∀ b ∈ nodes, b.1 ≠ m.1 := fun b hb heq => ha (List.mem_map.2 ⟨b, hb, heq⟩)
      rw [if_pos rfl, List.flatMap_eq_nil_iff.2 fun b hb => if_neg (hnone b hb), List.append_nil]
    · have hne : a.1 ≠ m.1 := fun heq => ha (List.mem_map.2 ⟨m, hm, heq.symm⟩)
      rw [if_neg hne, List.nil_append]
      exact ih hrest hm

/-- **The edges that leave a node are those of its connections**, in
their order. -/
theorem forall₂_outgoing (hnodup : (s.nodes.map (·.1)).Nodup) (hm : m ∈ s.nodes) :
    List.Forall₂ (fun e c => e.IsOf workflowId m.1 c)
      ((ofSource ids workflowId s).outgoing m.1) m.2.common.connections := by
  have hfilter := List.rel_filter (p := fun e : Edge => e.source == m.1)
    (q := fun c : String × Source.Connection => c.1 == m.1)
    (fun e c he => by obtain ⟨id, rfl⟩ := he; rfl) (forall₂_edges ids workflowId s)
  rw [filter_connections hnodup hm] at hfilter
  exact List.forall₂_map_right_iff (f := fun c => (m.1, c)).1 hfilter

end Graph

end Flowchart
