import Flowchart.Graph.Compile
import Flowchart.Graph.Validation
import Flowchart.Proofs.Success
import Flowchart.Proofs.Workflow.Versions

/-!
# Flows and the graphs of their sources

The graph of a flow is the one that its source makes
(`Workflow.IsCompiled`). The rules that make a graph invalid look neither
at the flow that it belongs to nor at the identifiers of its edges
(`Graph.errors_ofSource`), so a source that was published while its graph
was valid makes a valid graph for good (`Deployable`).
-/

namespace Flowchart

/-- What is wrong with a node does not depend on its flow. -/
theorem Graph.Node.configErrors_moved (n : Node) (workflowId : Uuid) :
    ({ n with workflowId } : Node).configErrors = n.configErrors := rfl

/-- **The errors of a graph are those of its source.** -/
theorem Graph.errors_ofSource (ids ids' : Nat → Uuid) (workflowId workflowId' : Uuid)
    (s : Source) : (ofSource ids workflowId s).errors = (ofSource ids' workflowId' s).errors := by
  have hstart : (ofSource ids workflowId s).nodes.any (·.isStart) =
      (ofSource ids' workflowId' s).nodes.any (·.isStart) := by
    rw [ofSource, ofSource, List.any_map, List.any_map]
    rfl
  have hend : (ofSource ids workflowId s).nodes.any (·.isEnd) =
      (ofSource ids' workflowId' s).nodes.any (·.isEnd) := by
    rw [ofSource, ofSource, List.any_map, List.any_map]
    rfl
  have hnodes : (ofSource ids workflowId s).nodes.flatMap (·.configErrors) =
      (ofSource ids' workflowId' s).nodes.flatMap (·.configErrors) := by
    rw [ofSource, ofSource, List.flatMap_map, List.flatMap_map]
    refine congrArg (List.flatMap · s.nodes) (funext fun n => ?_)
    exact Node.configErrors_moved (.ofSource workflowId' n.1 n.2) workflowId
  rw [errors, errors, startErrors, startErrors, endErrors, endErrors, hstart, hend, hnodes]

/-- **A source that can be run**: whoever compiles it gets a graph without
errors. -/
def Deployable (text : String) : Prop :=
  ∀ (ids : Nat → Uuid) (workflowId : Uuid), ∃ g,
    Graph.ofText? ids workflowId text = .ok g ∧ g.validate.isValid = true

namespace Workflow

variable {w : Workflow}

/-- **The graph of the flow is the one of its source.** -/
def IsCompiled (w : Workflow) : Prop :=
  ∃ ids, Graph.ofText? ids w.id w.source = .ok w.graph

/-- The source of a valid flow can be run. -/
theorem IsCompiled.deployable (h : w.IsCompiled) (hvalid : w.graph.validate.isValid = true) :
    Deployable w.source := by
  obtain ⟨ids, hids⟩ := h
  obtain ⟨s, hs, hgraph⟩ := map_eq_ok_iff.1 hids
  intro ids' workflowId
  refine ⟨_, map_eq_ok_iff.2 ⟨s, hs, rfl⟩, ?_⟩
  rw [← hgraph] at hvalid
  rw [Graph.validate, Graph.errors_ofSource ids' ids workflowId w.id]
  exact hvalid

namespace Store

variable {st st' : Store} {v : Version} {id : Uuid}

/-- **A store whose flows and versions stand by their sources.** -/
structure Faithful (st : Store) : Prop where
  /-- The graph of each flow is the one of its source. -/
  compiled : ∀ w ∈ st.flows, w.IsCompiled
  /-- The source of each version can be run. -/
  deployable : ∀ v ∈ st.versions, Deployable v.snapshot

theorem faithful_empty : Faithful {} :=
  ⟨nofun, nofun⟩

theorem Faithful.same (h : st.Faithful) (hsame : st.Same st') : st'.Faithful :=
  ⟨hsame.flows ▸ h.compiled, hsame.versions ▸ h.deployable⟩

theorem Faithful.create (h : st.Faithful) (hw : w.IsCompiled)
    (hflows : st'.flows = st.flows ++ [w]) (hversions : st'.versions = st.versions) :
    st'.Faithful := by
  refine ⟨fun u hu => ?_, hversions ▸ h.deployable⟩
  rw [hflows] at hu
  rcases List.mem_append.1 hu with hu | hu
  · exact h.compiled u hu
  · exact List.mem_singleton.1 hu ▸ hw

theorem Faithful.compiled_placed (h : st.Faithful) (hw : w.IsCompiled)
    (hflows : st'.flows = st.placed w) : ∀ u ∈ st'.flows, u.IsCompiled := by
  intro u hu
  rw [hflows] at hu
  rcases mem_placed hu with rfl | ⟨hu, -⟩
  · exact hw
  · exact h.compiled u hu

theorem Faithful.place (h : st.Faithful) (hw : w.IsCompiled) (hflows : st'.flows = st.placed w)
    (hversions : st'.versions = st.versions) : st'.Faithful :=
  ⟨h.compiled_placed hw hflows, hversions ▸ h.deployable⟩

theorem Faithful.delete (h : st.Faithful) (hflows : st'.flows = st.flows.filter (·.id != id))
    (hversions : st'.versions = st.versions.filter (·.workflowId != id)) : st'.Faithful := by
  refine ⟨fun w hw => ?_, fun v hv => ?_⟩
  · rw [hflows] at hw
    exact h.compiled w (List.mem_filter.1 hw).1
  · rw [hversions] at hv
    exact h.deployable v (List.mem_filter.1 hv).1

/-- A revision keeps the sources of versions. -/
theorem Faithful.deployable_revised (h : st.Faithful) {f : Version → Version}
    (hf : ∀ v, (f v).snapshot = v.snapshot) : ∀ v ∈ st.revised id f, Deployable v.snapshot := by
  intro v hv
  obtain ⟨u, hu, rfl⟩ := List.mem_map.1 hv
  split
  · rw [hf]
    exact h.deployable u hu
  · exact h.deployable u hu

theorem Faithful.publish (h : st.Faithful) (hw : w.IsCompiled) (hv : Deployable v.snapshot)
    (hflows : st'.flows = st.placed w)
    (hversions : st'.versions = st.revised id (·.retired) ++ [v]) : st'.Faithful := by
  refine ⟨h.compiled_placed hw hflows, fun u hu => ?_⟩
  rw [hversions] at hu
  rcases List.mem_append.1 hu with hu | hu
  · exact h.deployable_revised (f := Version.retired) (fun _ => rfl) u hu
  · exact List.mem_singleton.1 hu ▸ hv

theorem Faithful.activate (h : st.Faithful) {number : String} (hflows : st'.flows = st.flows)
    (hversions : st'.versions = st.revised id (·.marked number)) : st'.Faithful := by
  refine ⟨hflows ▸ h.compiled, ?_⟩
  rw [hversions]
  exact h.deployable_revised fun _ => rfl

/-! ## The versions of a flow -/

/-- **The versions of a flow are in order**: they are those that were
published, listed from the last one to the first one. -/
structure VersionsInOrder (st : Store) (id : Uuid) (published : List Version) : Prop where
  /-- Only a flow that is there has versions. -/
  stored : st.versionsOf id ≠ [] → (st.find? id).isSome = true
  /-- Their numbers differ. -/
  numbers : ((st.versionsOf id).map (·.number)).Nodup
  /-- If there are any, one is active, no other is, and it is the one that is found. -/
  active : st.versionsOf id ≠ [] → ∃ v,
    (st.versionsOf id).filter (·.isActive) = [v] ∧ st.activeVersion? id = some v
  /-- The flow is marked as published just if it has versions. -/
  marked : ∀ w, st.find? id = some w → (w.isPublished = true ↔ st.versionsOf id ≠ [])
  /-- They are the published ones in reverse, the mark of the active one apart. -/
  order : (st.versionsOf id).map (·.retired) = (published.map (·.retired)).reverse
  /-- Their sources make graphs without errors. -/
  deployable : ∀ v ∈ st.versionsOf id, Deployable v.snapshot

/-- **A sound and faithful store has its versions in order.** -/
theorem versionsInOrder (hsound : st.Sound) (hfaithful : st.Faithful) {published : List Version}
    (hissued : (st.issued id).map (·.retired) = published.map (·.retired)) :
    st.VersionsInOrder id published := by
  have hempty : st.versionsOf id ≠ [] ↔ st.issued id ≠ [] := by
    rw [versionsOf_eq, ne_eq, List.reverse_eq_nil_iff]
  refine ⟨fun hne => ?_, ?_, fun hne => ?_, fun w hw => ?_, ?_, fun v hv => ?_⟩
  · by_contra hid
    exact hempty.1 hne (hsound.issued_eq_nil (mt isSome_find?_iff.2 hid))
  · rw [versionsOf_eq, List.map_reverse, List.nodup_reverse]
    exact (hsound.rolls id).numbers
  · obtain ⟨v, hv⟩ := (hsound.rolls id).active (hempty.1 hne)
    refine ⟨v, ?_, ?_⟩
    · rw [versionsOf_eq, List.filter_reverse, hv, List.reverse_singleton]
    · rw [activeVersion?_eq, hv, List.head?_cons]
  · obtain ⟨hmem, rfl⟩ := mem_of_find?_eq_some hw
    exact (hsound.published w hmem).trans hempty.symm
  · rw [versionsOf_eq, List.map_reverse, hissued]
  · rw [versionsOf_eq, List.mem_reverse] at hv
    exact hfaithful.deployable v (mem_issued_iff.1 hv).1

end Store

end Workflow

end Flowchart
