import Flowchart.Workflow.Store
import Mathlib.Data.List.Nodup

/-!
# The table of versions

The versions of one flow are a roll (`Roll`): their numbers differ, and
of any there are exactly one is active. A new version retires the others
and joins them, and activating one of them moves the mark; both keep the
roll. A store whose flows differ in their identifiers, whose versions
belong to flows that it keeps, and whose flows are marked as published
just if they have versions is `Sound`, and so it stays under each of the
writes that flows are kept by.
-/

namespace Flowchart

namespace Workflow

/-- The version without the mark of the active one. -/
def Version.retired (v : Version) : Version :=
  { v with isActive := false }

/-- The version, marked as active just if it has the number. -/
def Version.marked (number : String) (v : Version) : Version :=
  { v with isActive := v.number == number }

/-- What changes the mark only changes nothing but the mark. -/
theorem map_retired_map {f : Version → Version} (hf : ∀ v, (f v).retired = v.retired)
    (vs : List Version) : (vs.map f).map (·.retired) = vs.map (·.retired) := by
  rw [List.map_map]
  exact List.map_congr_left fun v _ => hf v

/-! ## Rolls -/

/-- **The versions of one flow**: their numbers differ, and if there are
any, one of them is active and no other. -/
structure Roll (vs : List Version) : Prop where
  /-- No number is used twice. -/
  numbers : (vs.map (·.number)).Nodup
  /-- Exactly one is active. -/
  active : vs ≠ [] → ∃ v, vs.filter (·.isActive) = [v]

namespace Roll

variable {vs : List Version} {v : Version} {number : String}

theorem nil : Roll [] :=
  ⟨.nil, fun h => absurd rfl h⟩

/-- **A new active version retires the others.** -/
theorem publish (h : Roll vs) (hnew : v.number ∉ vs.map (·.number)) (hv : v.isActive = true) :
    Roll (vs.map (·.retired) ++ [v]) := by
  have hnumbers : (vs.map (·.retired) ++ [v]).map (·.number) = vs.map (·.number) ++ [v.number] := by
    rw [List.map_append, List.map_map]
    rfl
  refine ⟨?_, fun _ => ⟨v, ?_⟩⟩
  · rw [hnumbers, List.nodup_append]
    exact ⟨h.numbers, List.nodup_singleton _, fun k hk l hl heq =>
      hnew (List.mem_singleton.1 hl ▸ heq ▸ hk)⟩
  · have hretired : (vs.map (·.retired)).filter (·.isActive) = [] :=
      List.filter_eq_nil_iff.2 fun u hu => by
        obtain ⟨x, -, rfl⟩ := List.mem_map.1 hu
        simp [Version.retired]
    rw [List.filter_append, hretired, List.nil_append, List.filter_cons_of_pos hv,
      List.filter_nil]

/-- Of versions with different numbers one has a number that occurs. -/
theorem filter_number (h : (vs.map (·.number)).Nodup) (hnumber : number ∈ vs.map (·.number)) :
    ∃ v, vs.filter (·.number == number) = [v] := by
  induction vs with
  | nil => cases hnumber
  | cons u vs ih =>
    obtain ⟨hnot, hrest⟩ := List.nodup_cons.1 h
    by_cases hu : u.number = number
    · have hothers : vs.filter (·.number == number) = [] :=
        List.filter_eq_nil_iff.2 fun x hx hxn =>
          hnot (List.mem_map.2 ⟨x, hx, (beq_iff_eq.1 hxn).trans hu.symm⟩)
      exact ⟨u, by rw [List.filter_cons_of_pos (by simpa using hu), hothers]⟩
    · rw [List.filter_cons_of_neg (by simpa using hu)]
      rcases List.mem_cons.1 hnumber with heq | hmem
      · exact absurd heq.symm hu
      · exact ih hrest hmem

/-- **The mark moves to a version that is there.** -/
theorem activate (h : Roll vs) (hnumber : number ∈ vs.map (·.number)) :
    Roll (vs.map (·.marked number)) := by
  refine ⟨?_, fun _ => ?_⟩
  · rw [List.map_map]
    exact h.numbers
  · obtain ⟨v, hv⟩ := filter_number h.numbers hnumber
    refine ⟨v.marked number, ?_⟩
    rw [List.filter_map]
    exact congrArg (List.map _) hv

end Roll

/-! ## Stores -/

namespace Store

variable {st st' : Store} {w : Workflow} {v : Version} {id : Uuid} {number : String}

/-- The versions of a flow, the first one first. -/
def issued (st : Store) (id : Uuid) : List Version :=
  st.versions.filter (·.workflowId == id)

theorem versionsOf_eq (st : Store) (id : Uuid) : st.versionsOf id = (st.issued id).reverse :=
  rfl

/-- The identifiers of the flows. -/
def ids (st : Store) : List Uuid :=
  st.flows.map (·.id)

/-- The flows with one in the place of the one with its identifier. -/
def placed (st : Store) (w : Workflow) : List Workflow :=
  st.flows.map fun u => if u.id = w.id then w else u

theorem mem_ids (h : w ∈ st.flows) : w.id ∈ st.ids :=
  List.mem_map_of_mem h

theorem isSome_find?_iff : (st.find? id).isSome = true ↔ id ∈ st.ids := by
  simp [find?, ids]

/-- The flow that is found is one of the flows, with the identifier. -/
theorem mem_of_find?_eq_some (h : st.find? id = some w) : w ∈ st.flows ∧ w.id = id :=
  ⟨List.mem_of_find?_eq_some h, by simpa using List.find?_some h⟩

theorem hasVersion_iff : st.hasVersion id number = true ↔
    number ∈ (st.issued id).map (·.number) := by
  simp [hasVersion, issued, and_assoc]

/-- The active version is sought among those of the flow. -/
theorem activeVersion?_eq (st : Store) (id : Uuid) :
    st.activeVersion? id = ((st.issued id).filter (·.isActive)).head? := by
  rw [activeVersion?, issued, List.filter_filter, List.head?_filter]
  simp only [Bool.and_comm]

/-- The versions with those of one flow revised. -/
def revised (st : Store) (id : Uuid) (f : Version → Version) : List Version :=
  st.versions.map fun v => if v.workflowId = id then f v else v

/-- **Two stores hold the same**, whatever their gates have seen. -/
structure Same (st st' : Store) : Prop where
  /-- The flows are the same. -/
  flows : st'.flows = st.flows
  /-- The versions are the same. -/
  versions : st'.versions = st.versions

theorem issued_congr (h : st'.versions = st.versions) (id : Uuid) :
    st'.issued id = st.issued id := by
  rw [issued, issued, h]

theorem mem_issued_iff : v ∈ st.issued id ↔ v ∈ st.versions ∧ v.workflowId = id := by
  rw [issued, List.mem_filter, beq_iff_eq]

/-- The versions of another flow are not revised. -/
theorem filter_revised {f : Version → Version} (hf : ∀ v, (f v).workflowId = v.workflowId)
    (id id' : Uuid) : (st.revised id f).filter (·.workflowId == id') =
      if id' = id then (st.issued id).map f else st.issued id' := by
  have hkeep : ∀ v, (if v.workflowId = id then f v else v).workflowId = v.workflowId := by
    intro v
    split
    · exact hf v
    · rfl
  rw [revised, List.filter_map, Function.comp_def]
  simp only [hkeep]
  split
  · next heq =>
    subst heq
    exact List.map_congr_left fun v hv => if_pos (mem_issued_iff.1 hv).2
  · next hne =>
    refine (List.map_congr_left fun v hv => if_neg ?_).trans (List.map_id _)
    exact fun h => hne ((mem_issued_iff.1 hv).2.symm.trans h)

/-- After a deletion the flow has no versions, and any other has its
own. -/
theorem issued_of_delete (h : st'.versions = st.versions.filter (·.workflowId != id))
    (id' : Uuid) : st'.issued id' = if id' = id then [] else st.issued id' := by
  rw [issued, h, List.filter_filter]
  split
  · next heq => exact List.filter_eq_nil_iff.2 fun v _ => by simp [heq]
  · next hne =>
    refine List.filter_congr fun v _ => ?_
    by_cases hv : v.workflowId = id' <;> simp [hv, hne]

/-- After a publication the flow has one version more. -/
theorem issued_of_publish (h : st'.versions = st.revised id (·.retired) ++ [v])
    (hid : v.workflowId = id) (id' : Uuid) : st'.issued id' =
      if id' = id then (st.issued id).map (·.retired) ++ [v] else st.issued id' := by
  rw [issued, h, List.filter_append, filter_revised (f := Version.retired) fun _ => rfl]
  split
  · next heq => rw [List.filter_cons_of_pos (by simp [hid, heq]), List.filter_nil]
  · next hne =>
    rw [List.filter_cons_of_neg (by simpa [hid] using Ne.symm hne), List.filter_nil,
      List.append_nil]

/-- After an activation the flow has the same versions, marked anew. -/
theorem issued_of_activate (h : st'.versions = st.revised id (·.marked number)) (id' : Uuid) :
    st'.issued id' =
      if id' = id then (st.issued id).map (·.marked number) else st.issued id' := by
  rw [issued, h, filter_revised (f := Version.marked number) fun _ => rfl]

theorem ids_placed (hw : st'.flows = st.placed w) : st'.ids = st.ids := by
  rw [ids, ids, hw, placed, List.map_map]
  refine List.map_congr_left fun u _ => ?_
  rw [Function.comp_apply]
  split
  · next h => exact h.symm
  · rfl

/-- A flow of the store is the one that was placed, or another one. -/
theorem mem_placed {u : Workflow} (h : u ∈ st.placed w) : u = w ∨ u ∈ st.flows ∧ u.id ≠ w.id := by
  obtain ⟨x, hx, rfl⟩ := List.mem_map.1 h
  split
  · exact .inl rfl
  · next hne => exact .inr ⟨hx, hne⟩

/-! ## What keeps a store sound -/

/-- **The identifiers of a store are in order**, whatever its gates have
refused. -/
structure Tidy (st : Store) : Prop where
  /-- The flows differ in their identifiers. -/
  distinct : st.ids.Nodup
  /-- Versions belong to flows that are there. -/
  stored : ∀ v ∈ st.versions, v.workflowId ∈ st.ids

/-- A flow is the only one with its identifier. -/
theorem Tidy.eq_of_id (h : st.Tidy) {u : Workflow} (hu : u ∈ st.flows) (hw : w ∈ st.flows)
    (hid : u.id = w.id) : u = w :=
  List.inj_on_of_nodup_map h.distinct hu hw hid

/-- **What a store of flows never loses.** -/
structure Sound (st : Store) : Prop where
  /-- The flows differ in their identifiers. -/
  distinct : st.ids.Nodup
  /-- Versions belong to flows that are there. -/
  stored : ∀ v ∈ st.versions, v.workflowId ∈ st.ids
  /-- The versions of a flow are a roll. -/
  rolls : ∀ id, Roll (st.issued id)
  /-- The flows that have been published are those with versions. -/
  published : ∀ w ∈ st.flows, w.isPublished = true ↔ st.issued w.id ≠ []

theorem sound_empty : Sound {} :=
  ⟨.nil, nofun, fun _ => .nil, nofun⟩

/-- There are versions of flows that are there only. -/
theorem Sound.issued_eq_nil (h : st.Sound) (hid : id ∉ st.ids) : st.issued id = [] :=
  List.filter_eq_nil_iff.2 fun v hv heq => hid (beq_iff_eq.1 heq ▸ h.stored v hv)

theorem Sound.tidy (h : st.Sound) : st.Tidy :=
  ⟨h.distinct, h.stored⟩

theorem Sound.same (h : st.Sound) (hsame : st.Same st') : st'.Sound := by
  have hids : st'.ids = st.ids := by rw [ids, ids, hsame.flows]
  have hissued := issued_congr hsame.versions
  refine ⟨hids ▸ h.distinct, ?_, fun id => hissued id ▸ h.rolls id, ?_⟩
  · rw [hsame.versions, hids]
    exact h.stored
  · rw [hsame.flows]
    exact fun w hw => hissued w.id ▸ h.published w hw

/-- **A new flow** has no versions. -/
theorem Sound.create (h : st.Sound) (hnew : w.id ∉ st.ids) (hw : w.isPublished = false)
    (hflows : st'.flows = st.flows ++ [w]) (hversions : st'.versions = st.versions) :
    st'.Sound := by
  have hids : st'.ids = st.ids ++ [w.id] := by rw [ids, hflows, List.map_append]; rfl
  have hissued := issued_congr hversions
  refine ⟨?_, ?_, fun id => hissued id ▸ h.rolls id, ?_⟩
  · rw [hids, List.nodup_append]
    exact ⟨h.distinct, List.nodup_singleton _, fun a ha b hb heq =>
      hnew (List.mem_singleton.1 hb ▸ heq ▸ ha)⟩
  · rw [hversions, hids]
    exact fun v hv => List.mem_append_left _ (h.stored v hv)
  · intro u hu
    rw [hissued]
    rw [hflows] at hu
    rcases List.mem_append.1 hu with hu | hu
    · exact h.published u hu
    · rw [List.mem_singleton.1 hu, hw, h.issued_eq_nil hnew]
      simp

/-- **A flow that changes** is published as before. -/
theorem Sound.place (h : st.Sound) {u : Workflow} (hu : u ∈ st.flows) (hid : u.id = w.id)
    (hw : w.isPublished = u.isPublished) (hflows : st'.flows = st.placed w)
    (hversions : st'.versions = st.versions) : st'.Sound := by
  have hids := ids_placed hflows
  have hissued := issued_congr hversions
  refine ⟨hids ▸ h.distinct, ?_, fun id => hissued id ▸ h.rolls id, ?_⟩
  · rw [hversions, hids]
    exact h.stored
  · intro x hx
    rw [hflows] at hx
    rw [hissued]
    rcases mem_placed hx with rfl | ⟨hx, -⟩
    · rw [hw, ← hid]
      exact h.published u hu
    · exact h.published x hx

/-- **A flow that goes** takes its versions with it. -/
theorem Sound.delete (h : st.Sound) (hflows : st'.flows = st.flows.filter (·.id != id))
    (hversions : st'.versions = st.versions.filter (·.workflowId != id)) : st'.Sound := by
  have hids : st'.ids = st.ids.filter (· != id) := by
    rw [ids, ids, hflows, List.filter_map]
    rfl
  have hissued := issued_of_delete hversions
  refine ⟨hids ▸ h.distinct.filter _, ?_, fun id' => ?_, ?_⟩
  · intro v hv
    rw [hversions, List.mem_filter] at hv
    rw [hids, List.mem_filter]
    exact ⟨h.stored v hv.1, hv.2⟩
  · rw [hissued]
    split
    · exact .nil
    · exact h.rolls id'
  · intro w hw
    rw [hflows, List.mem_filter] at hw
    rw [hissued, if_neg (by simpa using hw.2)]
    exact h.published w hw.1

/-- **A flow that is published** has a version more, which is its active
one. -/
theorem Sound.publish (h : st.Sound) (hw : w.id ∈ st.ids) (hpublished : w.isPublished = true)
    (hid : v.workflowId = w.id) (hactive : v.isActive = true)
    (hnew : v.number ∉ (st.issued w.id).map (·.number)) (hflows : st'.flows = st.placed w)
    (hversions : st'.versions = st.revised w.id (·.retired) ++ [v]) : st'.Sound := by
  have hids := ids_placed hflows
  have hissued := issued_of_publish hversions hid
  refine ⟨hids ▸ h.distinct, fun u hu => ?_, fun id => ?_, fun x hx => ?_⟩
  · rw [hversions] at hu
    rw [hids]
    rcases List.mem_append.1 hu with hu | hu
    · obtain ⟨y, hy, rfl⟩ := List.mem_map.1 hu
      split
      · exact h.stored y hy
      · exact h.stored y hy
    · rw [List.mem_singleton.1 hu, hid]
      exact hw
  · rw [hissued]
    split
    · exact (h.rolls w.id).publish hnew hactive
    · exact h.rolls id
  · rw [hflows] at hx
    rw [hissued]
    rcases mem_placed hx with rfl | ⟨hx, hne⟩
    · rw [if_pos rfl, hpublished]
      simp
    · rw [if_neg hne]
      exact h.published x hx

/-- **A version that is activated** was there. -/
theorem Sound.activate (h : st.Sound) (hnumber : number ∈ (st.issued id).map (·.number))
    (hflows : st'.flows = st.flows)
    (hversions : st'.versions = st.revised id (·.marked number)) : st'.Sound := by
  have hids : st'.ids = st.ids := by rw [ids, ids, hflows]
  have hissued := issued_of_activate hversions
  refine ⟨hids ▸ h.distinct, fun u hu => ?_, fun id' => ?_, fun w hw => ?_⟩
  · rw [hversions] at hu
    obtain ⟨y, hy, rfl⟩ := List.mem_map.1 hu
    rw [hids]
    split
    · exact h.stored y hy
    · exact h.stored y hy
  · rw [hissued]
    split
    · exact (h.rolls id).activate hnumber
    · exact h.rolls id'
  · rw [hflows] at hw
    rw [hissued, h.published w hw]
    split
    · next heq => rw [heq, ne_eq, ne_eq, List.map_eq_nil_iff]
    · exact Iff.rfl

end Store

end Workflow

end Flowchart
