import Flowchart.Proofs.Workflow.Versions

/-!
# What stores of flows write

A store whose gates are open turns down only what contradicts what it
keeps: a flow that is not there, a number that is used already. Each
write is described once, by what it answers and by the records after it;
a write that is turned down leaves them.
-/

namespace Flowchart

/-- An open gate lets every write through. -/
theorem Storage.Gate.pass_of_open {g : Gate} (h : ∀ k, g.refusal k = none) :
    g.pass = (.ok (), { g with tried := g.tried + 1 }) := by
  rw [pass, h]

namespace Workflow.Store

variable {st st' : Store} {w w' : Workflow} {v : Version} {id : Uuid} {number : String}

/-- **No write is refused.** -/
structure Open (st : Store) : Prop where
  /-- No update is refused. -/
  updates : ∀ k, st.updates.refusal k = none
  /-- No new version is refused. -/
  publications : ∀ k, st.publications.refusal k = none

theorem open_empty : Open {} :=
  ⟨fun _ => rfl, fun _ => rfl⟩

/-! ## Flows -/

/-- A new flow is taken if its identifier is not used. -/
theorem create_cases (st : Store) (w : Workflow) :
    (w.id ∈ st.ids ∧ st.create w = (.error (.workflowExists w.id), st)) ∨
      (w.id ∉ st.ids ∧ st.create w = (.ok w, { st with flows := st.flows ++ [w] })) := by
  unfold create
  by_cases h : w.id ∈ st.ids
  · exact .inl ⟨h, if_pos (isSome_find?_iff.2 h)⟩
  · exact .inr ⟨h, if_neg (mt isSome_find?_iff.1 h)⟩

/-- **A flow that is there is updated.** -/
theorem update_of_open (h : st.Open) (hw : w.id ∈ st.ids) :
    ∃ st', st.update w = (.ok w, st') ∧ st'.flows = st.placed w ∧
      st'.versions = st.versions ∧ st'.Open := by
  unfold update
  rw [Storage.Gate.pass_of_open h.updates]
  refine ⟨_, if_pos (isSome_find?_iff.2 hw), rfl, rfl, h.updates, h.publications⟩

/-- A flow is put back in its own place. -/
theorem placed_self (h : st.Tidy) (hw : w ∈ st.flows) : st.placed w = st.flows := by
  refine (List.map_congr_left fun u hu => ?_).trans (List.map_id _)
  rw [id]
  split
  · next hid => exact (h.eq_of_id hu hw hid).symm
  · rfl

/-- Of two flows with one identifier the second one remains. -/
theorem placed_placed (h : st'.flows = st.placed w') (hid : w'.id = w.id) :
    st'.placed w = st.placed w := by
  rw [placed, h, placed, List.map_map]
  refine List.map_congr_left fun u _ => ?_
  rw [Function.comp_apply, hid]
  by_cases hu : u.id = w.id
  · rw [if_pos hu, if_pos hid, if_pos hu]
  · rw [if_neg hu, if_neg hu]

/-- A flow that is not there takes nothing with it. -/
theorem same_of_delete (h : st.Tidy) (hid : id ∉ st.ids) : st.Same (st.delete id).2 := by
  refine ⟨List.filter_eq_self.2 fun w hw => ?_, List.filter_eq_self.2 fun v hv => ?_⟩
  · have hne : w.id ≠ id := fun heq => hid (heq ▸ List.mem_map_of_mem hw)
    simpa using hne
  · have hne : v.workflowId ≠ id := fun heq => hid (heq ▸ h.stored v hv)
    simpa using hne

/-! ## What is found after a write -/

/-- **A new flow is found** under its identifier. -/
theorem find?_created (hflows : st'.flows = st.flows ++ [w]) (hnew : w.id ∉ st.ids) (id : Uuid) :
    st'.find? id = if id = w.id then some w else st.find? id := by
  rw [find?, hflows, List.find?_append]
  change (st.find? id).or _ = _
  by_cases heq : id = w.id
  · have hnone : st.find? id = none :=
      Option.not_isSome_iff_eq_none.1 (mt isSome_find?_iff.1 (heq ▸ hnew))
    rw [if_pos heq, hnone, Option.none_or]
    exact List.find?_cons_of_pos (by simp [heq])
  · rw [if_neg heq, List.find?_cons_of_neg (by simpa using Ne.symm heq), List.find?_nil,
      Option.or_none]

/-- **A flow that is placed is found** under its identifier. -/
theorem find?_placed (hflows : st'.flows = st.placed w) (hw : w.id ∈ st.ids) (id : Uuid) :
    st'.find? id = if id = w.id then some w else st.find? id := by
  have hkeep : (fun u : Workflow => (if u.id = w.id then w else u).id == id) =
      fun u => u.id == id := by
    funext u
    split
    · next heq => rw [heq]
    · rfl
  rw [find?, hflows, placed, List.find?_map, Function.comp_def, hkeep]
  change (st.find? id).map _ = _
  split
  · next heq =>
    obtain ⟨u, hu⟩ := Option.isSome_iff_exists.1 (isSome_find?_iff.2 (heq ▸ hw))
    rw [hu, Option.map_some, if_pos ((mem_of_find?_eq_some hu).2.trans heq)]
  · next hne =>
    cases hu : st.find? id with
    | none => rfl
    | some u =>
      rw [Option.map_some, if_neg]
      exact fun heq => hne ((mem_of_find?_eq_some hu).2.symm.trans heq)

/-- **A flow that is taken out is not found.** -/
theorem find?_removed (hflows : st'.flows = st.flows.filter (·.id != id)) (id' : Uuid) :
    st'.find? id' = if id' = id then none else st.find? id' := by
  rw [find?, hflows, List.find?_filter]
  split
  · next heq =>
    refine List.find?_eq_none.2 fun u _ => ?_
    simp [heq]
  · next hne =>
    rw [find?]
    congr 1
    funext u
    by_cases hu : u.id = id' <;> simp [hu, hne]

/-- In a tidy store a flow is what is found under its identifier. -/
theorem Tidy.find?_id (h : st.Tidy) (hw : w ∈ st.flows) : st.find? w.id = some w := by
  obtain ⟨u, hu⟩ := Option.isSome_iff_exists.1 (isSome_find?_iff.2 (mem_ids hw))
  obtain ⟨hmem, hid⟩ := mem_of_find?_eq_some hu
  rw [hu, h.eq_of_id hmem hw hid]

/-! ## Versions -/

/-- **A new active version** is taken if its number is not used. -/
theorem createVersion_of_open (h : st.Open) (hid : v.workflowId ∈ st.ids)
    (hactive : v.isActive = true) :
    (v.number ∈ (st.issued v.workflowId).map (·.number) ∧
      ∃ st', st.createVersion v = (.error (.versionExists v.workflowId v.number), st') ∧
        st.Same st' ∧ st'.Open) ∨
      (v.number ∉ (st.issued v.workflowId).map (·.number) ∧
        ∃ st', st.createVersion v = (.ok v, st') ∧ st'.flows = st.flows ∧
          st'.versions = st.revised v.workflowId (·.retired) ++ [v] ∧ st'.Open) := by
  have hfound : (st.find? v.workflowId).isNone = false := by
    rw [← Option.not_isSome, isSome_find?_iff.2 hid]
    rfl
  unfold createVersion
  rw [Storage.Gate.pass_of_open h.publications]
  by_cases hnumber : v.number ∈ (st.issued v.workflowId).map (·.number)
  · refine .inl ⟨hnumber, _, (if_neg ?_).trans (if_pos (hasVersion_iff.2 hnumber)), ⟨rfl, rfl⟩,
      h.updates, h.publications⟩
    exact Bool.eq_false_iff.1 hfound
  · refine .inr ⟨hnumber, _, (if_neg ?_).trans (if_neg (mt hasVersion_iff.1 hnumber)), rfl, ?_,
      h.updates, h.publications⟩
    · exact Bool.eq_false_iff.1 hfound
    · simp only [hactive, Bool.true_and, beq_iff_eq]
      rfl

/-- **A version that is there is activated.** -/
theorem activateVersion_cases (st : Store) (id : Uuid) (number : String) :
    (number ∉ (st.issued id).map (·.number) ∧
      st.activateVersion id number = (.error (.versionNotFound id number), st)) ∨
      (number ∈ (st.issued id).map (·.number) ∧
        ∃ v, st.activateVersion id number =
          (.ok v, { st with versions := st.revised id (·.marked number) })) := by
  unfold activateVersion
  by_cases hnumber : number ∈ (st.issued id).map (·.number)
  · refine .inr ⟨hnumber, ?_⟩
    rw [if_pos (hasVersion_iff.2 hnumber)]
    simp only
    split
    · next v _ => exact ⟨v, rfl⟩
    · next hnone =>
      -- the version with the number is marked, so there is one to find
      exfalso
      obtain ⟨v, hv, hvn⟩ := List.mem_map.1 hnumber
      obtain ⟨hmem, hvid⟩ := mem_issued_iff.1 hv
      rw [List.findRev?_eq_find?_reverse, List.find?_eq_none] at hnone
      refine hnone (v.marked number) (List.mem_reverse.2 (List.mem_map.2 ⟨v, hmem, if_pos hvid⟩)) ?_
      simp [Version.marked, hvid, hvn]
  · exact .inl ⟨hnumber, if_neg (mt hasVersion_iff.1 hnumber)⟩

end Workflow.Store

end Flowchart
