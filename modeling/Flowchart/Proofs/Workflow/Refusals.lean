import Flowchart.Proofs.Workflow.Writes

/-!
# Stores of flows that refuse writes

The gates of a store may refuse any write. Whatever a store answers, a
write that it turns down leaves the flows and the versions
(`same_of_update`), and every write keeps the identifiers in order
(`Tidy`): flows have different ones, and versions belong to flows that
are there.
-/

namespace Flowchart

/-- The gate does not refuse the write after one that it lets through. -/
def Storage.Gate.Relents (g : Gate) : Prop :=
  g.refusal g.tried = none → g.refusal (g.tried + 1) = none

namespace Workflow.Store

variable {st st' : Store} {w w' : Workflow} {v : Version} {id : Uuid} {number : String}

theorem Same.refl (st : Store) : st.Same st :=
  ⟨rfl, rfl⟩

/-- Stores that hold the same hold flows with the same identifiers. -/
theorem Same.ids_eq (h : st.Same st') : st'.ids = st.ids := by
  rw [ids, ids, h.flows]

/-! ## What is written, if anything -/

/-- **A flow is put in the place of the one with its identifier**, or
nothing is written. -/
theorem update_cases (st : Store) (w : Workflow) :
    (∃ err st', st.update w = (.error err, st') ∧ st.Same st') ∨
      ∃ st', st.update w = (.ok w, st') ∧ w.id ∈ st.ids ∧ st'.flows = st.placed w ∧
        st'.versions = st.versions ∧ st.updates.refusal st.updates.tried = none ∧
        st'.updates = { st.updates with tried := st.updates.tried + 1 } := by
  unfold update Storage.Gate.pass
  cases hgate : st.updates.refusal st.updates.tried with
  | some reason => exact .inl ⟨_, _, rfl, rfl, rfl⟩
  | none =>
    by_cases hid : w.id ∈ st.ids
    · exact .inr ⟨_, if_pos (isSome_find?_iff.2 hid), hid, rfl, rfl, rfl, rfl⟩
    · exact .inl ⟨_, _, if_neg (mt isSome_find?_iff.1 hid), rfl, rfl⟩

/-- **A flow that is there is updated** unless the gate refuses. -/
theorem update_of_pass (h : st.updates.refusal st.updates.tried = none) (hw : w.id ∈ st.ids) :
    (st.update w).2.flows = st.placed w ∧ (st.update w).2.versions = st.versions := by
  obtain ⟨err, st', hst, -⟩ | ⟨st', hst, -, hflows, hversions, -⟩ := st.update_cases w
  · unfold update Storage.Gate.pass at hst
    rw [h] at hst
    have hok := (if_pos (isSome_find?_iff.2 hw)).symm.trans hst
    cases hok
  · rw [hst]
    exact ⟨hflows, hversions⟩

/-- **A version is put in**, or nothing is written. -/
theorem createVersion_cases (st : Store) (v : Version) :
    (∃ err st', st.createVersion v = (.error err, st') ∧ st.Same st' ∧
      st'.updates = st.updates) ∨
      ∃ st', st.createVersion v = (.ok v, st') ∧ v.workflowId ∈ st.ids ∧ st'.flows = st.flows ∧
        ∃ f : Version → Version, (∀ u, (f u).workflowId = u.workflowId) ∧
          st'.versions = st.versions.map f ++ [v] := by
  unfold createVersion Storage.Gate.pass
  cases hgate : st.publications.refusal st.publications.tried with
  | some reason => exact .inl ⟨_, _, rfl, ⟨rfl, rfl⟩, rfl⟩
  | none =>
    simp only [add]
    split
    · exact .inl ⟨_, _, rfl, ⟨rfl, rfl⟩, rfl⟩
    · next hfound =>
      split
      · exact .inl ⟨_, _, rfl, ⟨rfl, rfl⟩, rfl⟩
      · refine .inr ⟨_, rfl, isSome_find?_iff.1 ?_, rfl, _, fun u => ?_, rfl⟩
        · simpa [find?] using hfound
        · split <;> rfl

/-! ## What every write keeps -/

theorem tidy_of_empty (hflows : st.flows = []) (hversions : st.versions = []) : st.Tidy := by
  refine ⟨?_, ?_⟩
  · rw [ids, hflows]
    exact .nil
  · rw [hversions]
    exact fun v hv => absurd hv List.not_mem_nil

theorem Tidy.same (h : st.Tidy) (hsame : st.Same st') : st'.Tidy :=
  ⟨hsame.ids_eq ▸ h.distinct, hsame.versions.symm ▸ hsame.ids_eq.symm ▸ h.stored⟩

/-- The same identifiers and versions of the same flows are as tidy. -/
theorem Tidy.of_map (h : st.Tidy) (hids : st'.ids = st.ids) {f : Version → Version}
    (hf : ∀ u, (f u).workflowId = u.workflowId) (hversions : st'.versions = st.versions.map f) :
    st'.Tidy := by
  refine ⟨hids ▸ h.distinct, fun u hu => ?_⟩
  rw [hversions] at hu
  obtain ⟨x, hx, rfl⟩ := List.mem_map.1 hu
  rw [hf, hids]
  exact h.stored x hx

theorem Tidy.create (h : st.Tidy) (w : Workflow) : (st.create w).2.Tidy := by
  obtain ⟨-, hst⟩ | ⟨hnew, hst⟩ := st.create_cases w
  · rw [hst]
    exact h
  · rw [hst]
    have hids : ids { st with flows := st.flows ++ [w] } = st.ids ++ [w.id] := List.map_append
    refine ⟨?_, fun v hv => hids ▸ List.mem_append_left _ (h.stored v hv)⟩
    rw [hids, List.nodup_append]
    exact ⟨h.distinct, List.nodup_singleton _, fun a ha b hb heq =>
      hnew (List.mem_singleton.1 hb ▸ heq ▸ ha)⟩

theorem Tidy.update (h : st.Tidy) (w : Workflow) : (st.update w).2.Tidy := by
  obtain ⟨err, st', hst, hsame⟩ | ⟨st', hst, -, hflows, hversions, -⟩ := st.update_cases w
  · rw [hst]
    exact h.same hsame
  · rw [hst]
    exact h.of_map (f := fun u => u) (ids_placed hflows) (fun _ => rfl)
      (hversions.trans (List.map_id _).symm)

theorem Tidy.delete (h : st.Tidy) (id : Uuid) : (st.delete id).2.Tidy := by
  have hids : (st.delete id).2.ids = st.ids.filter (· != id) := by
    rw [ids, ids, List.filter_map]
    rfl
  refine ⟨hids ▸ h.distinct.filter _, fun v hv => ?_⟩
  obtain ⟨hv, hne⟩ := List.mem_filter.1 hv
  rw [hids, List.mem_filter]
  exact ⟨h.stored v hv, hne⟩

theorem Tidy.createVersion (h : st.Tidy) (v : Version) : (st.createVersion v).2.Tidy := by
  obtain ⟨err, st', hst, hsame, -⟩ | ⟨st', hst, hid, hflows, f, hf, hversions⟩ :=
    st.createVersion_cases v
  · rw [hst]
    exact h.same hsame
  · rw [hst]
    have hids : st'.ids = st.ids := by rw [ids, ids, hflows]
    refine ⟨hids ▸ h.distinct, fun u hu => ?_⟩
    rw [hids]
    rw [hversions] at hu
    rcases List.mem_append.1 hu with hu | hu
    · obtain ⟨x, hx, rfl⟩ := List.mem_map.1 hu
      exact hf x ▸ h.stored x hx
    · exact List.mem_singleton.1 hu ▸ hid

theorem Tidy.activateVersion (h : st.Tidy) (id : Uuid) (number : String) :
    (st.activateVersion id number).2.Tidy := by
  obtain ⟨-, hst⟩ | ⟨-, v, hst⟩ := st.activateVersion_cases id number
  · rw [hst]
    exact h
  · rw [hst]
    have hids : ids { st with versions := st.revised id (·.marked number) } = st.ids := rfl
    refine h.of_map hids (fun u => ?_) rfl
    split <;> rfl

end Workflow.Store

end Flowchart
