import Flowchart.Engine.Lifecycle
import Flowchart.Proofs.Workflow.Compiled
import Flowchart.Proofs.Workflow.Writes
import Mathlib.Data.List.Induction

/-!
# Operations on flows, one after another

An operation makes, changes, deletes or publishes a flow, or activates a
version. It fails, and the flows and versions are as before, or it does
one thing to them (`performs`). So whatever is done to flows from
the empty store on, the store stays sound and faithful, and the versions
of each flow are those that were published since it was last deleted
(`versions_in_order`).
-/

namespace Flowchart

namespace Engine

open Workflow (Store Version)

/-! ## Operations -/

/-- What can be done to flows, by a user at a time. -/
inductive Operation where
  /-- Makes a flow. -/
  | create (draft : Workflow.Draft) (user : String) (clock : Clock)
  /-- Changes a flow. -/
  | update (id : Uuid) (change : Workflow.Change) (user : String) (clock : Clock)
  /-- Deletes a flow. -/
  | delete (id : Uuid) (user : String) (clock : Clock)
  /-- Publishes a flow. -/
  | publish (id : Uuid) (number notes user : String) (clock : Clock)
  /-- Activates a version. -/
  | activate (id : Uuid) (number user : String) (clock : Clock)
deriving Inhabited

/-- The engine after an operation. -/
def perform (e : Engine) : Operation → Engine
  | .create draft user clock => (e.create draft user clock).2
  | .update id change user clock => (e.update id change user clock).2
  | .delete id user clock => (e.delete id user clock).2
  | .publish id number notes user clock => (e.publish id number notes user clock).2
  | .activate id number user clock => (e.activateVersion id number user clock).2

/-- The engine does what the operation asks for. -/
def does (e : Engine) : Operation → Bool
  | .create draft user clock => (e.create draft user clock).1.isOk
  | .update id change user clock => (e.update id change user clock).1.isOk
  | .delete id user clock => (e.delete id user clock).1
  | .publish id number notes user clock => (e.publish id number notes user clock).1.isOk
  | .activate id number user clock => (e.activateVersion id number user clock).1.isOk

/-- The engine after some operations. -/
def performAll (e : Engine) (ops : List Operation) : Engine :=
  ops.foldl perform e

variable {e : Engine} {st st' : Store} {w w' : Workflow} {v : Version} {id : Uuid}

theorem performAll_concat (e : Engine) (ops : List Operation) (op : Operation) :
    e.performAll (ops ++ [op]) = (e.performAll ops).perform op :=
  List.foldl_concat ..

/-! ## What an operation does -/

/-- **A flow and what a change makes of it**, with or without a new
source. -/
structure Revises (source : Option String) (w w' : Workflow) : Prop where
  /-- It is the same flow. -/
  id : w'.id = w.id
  /-- It is published as before. -/
  published : w'.isPublished = w.isPublished
  /-- It has the new source, if there is one. -/
  source : w'.source = source.getD w.source
  /-- Its graph is still the one of its source. -/
  compiled : w.IsCompiled → w'.IsCompiled

/-- The flow once it is published. -/
def publishedAt (w : Workflow) (clock : Clock) : Workflow :=
  { w with isPublished := true, updatedAt := clock.now }

/-- **What an operation that succeeds does to the records of the store.** -/
inductive Effect (e : Engine) (st' : Store) : Operation → Prop where
  /-- A flow is added. -/
  | created {draft : Workflow.Draft} {user : String} {clock : Clock} {w : Workflow}
    (answer : (e.create draft user clock).1 = .ok w) (new : w.id ∉ e.flows.ids)
    (unpublished : w.isPublished = false) (source : w.source = draft.source)
    (compiled : w.IsCompiled) (flows : st'.flows = e.flows.flows ++ [w])
    (versions : st'.versions = e.flows.versions) : Effect e st' (.create draft user clock)
  /-- A flow is changed. -/
  | updated {id : Uuid} {change : Workflow.Change} {user : String} {clock : Clock}
    {w w' : Workflow} (answer : (e.update id change user clock).1 = .ok w')
    (found : w ∈ e.flows.flows) (hid : w.id = id) (revises : Revises change.source w w')
    (flows : st'.flows = e.flows.placed w') (versions : st'.versions = e.flows.versions) :
    Effect e st' (.update id change user clock)
  /-- A flow is taken out with its versions. -/
  | deleted {id : Uuid} {user : String} {clock : Clock}
    (flows : st'.flows = e.flows.flows.filter (·.id != id))
    (versions : st'.versions = e.flows.versions.filter (·.workflowId != id)) :
    Effect e st' (.delete id user clock)
  /-- A flow has a version more. -/
  | published {id : Uuid} {number notes user : String} {clock : Clock} {w : Workflow}
    {v : Version} (answer : (e.publish id number notes user clock).1 = .ok v)
    (found : w ∈ e.flows.flows) (hid : w.id = id)
    (valid : w.graph.validate.isValid = true) (hv : v.workflowId = id)
    (active : v.isActive = true) (snapshot : v.snapshot = w.source)
    (new : v.number ∉ (e.flows.issued id).map (·.number))
    (flows : st'.flows = e.flows.placed (publishedAt w clock))
    (versions : st'.versions = e.flows.revised id (·.retired) ++ [v]) :
    Effect e st' (.publish id number notes user clock)
  /-- A version of a flow is marked. -/
  | activated {id : Uuid} {number user : String} {clock : Clock}
    (known : number ∈ (e.flows.issued id).map (·.number)) (flows : st'.flows = e.flows.flows)
    (versions : st'.versions = e.flows.revised id (·.marked number)) :
    Effect e st' (.activate id number user clock)

/-- **What becomes of an operation**: it fails and leaves the records, or
it succeeds and has its effect. -/
structure Performs (e : Engine) (op : Operation) : Prop where
  /-- The gates stay open. -/
  gates : (e.perform op).flows.Open
  /-- The records are as before, or changed as the operation says. -/
  records : e.does op = false ∧ e.flows.Same (e.perform op).flows ∨
    e.does op = true ∧ Effect e (e.perform op).flows op

theorem Performs.failed {e' : Engine} {op : Operation} (hperform : e.perform op = e')
    (hdoes : e.does op = false) (hsame : e.flows.Same e'.flows) (hopen : e'.flows.Open) :
    e.Performs op :=
  ⟨hperform ▸ hopen, .inl ⟨hdoes, hperform ▸ hsame⟩⟩

theorem Performs.succeeded {e' : Engine} {op : Operation} (hperform : e.perform op = e')
    (hdoes : e.does op = true) (heffect : Effect e e'.flows op) (hopen : e'.flows.Open) :
    e.Performs op :=
  ⟨hperform ▸ hopen, .inr ⟨hdoes, hperform ▸ heffect⟩⟩

/-- A flow that is required is there. -/
theorem require_eq_ok (h : e.require id = .ok w) : w ∈ e.flows.flows ∧ w.id = id := by
  unfold require at h
  split at h
  · next hfound =>
    obtain rfl := Except.ok.inj h
    exact Store.mem_of_find?_eq_some hfound
  · cases h

/-- A new source comes with its graph, and nothing else changes. -/
theorem revises_of_withSource {source : Option String} {ids : IdSource}
    (h : e.withSource w source = .ok (w', ids)) : Revises source w w' := by
  cases source with
  | none =>
    obtain ⟨rfl, -⟩ := Prod.mk.inj (Except.ok.inj h)
    exact ⟨rfl, rfl, rfl, fun h => h⟩
  | some source =>
    rw [withSource] at h
    split at h
    · cases h
    · next graph hgraph =>
      obtain ⟨rfl, -⟩ := Prod.mk.inj (Except.ok.inj h)
      exact ⟨rfl, rfl, rfl, fun _ => ⟨_, hgraph⟩⟩

/-- The flow of a draft with the graph of its source. -/
def drafted (e : Engine) (draft : Workflow.Draft) (graph : Graph) (user : String)
    (clock : Clock) : Workflow where
  id := draft.id.getD e.ids.next
  name := draft.name
  description := draft.description
  source := draft.source
  graph
  createdBy := user
  createdAt := clock.now
  updatedAt := clock.now

/-- **A draft becomes a flow** if its source makes a graph and its
identifier is not used. -/
theorem create_cases (e : Engine) (draft : Workflow.Draft) (user : String) (clock : Clock) :
    (∃ err e', e.create draft user clock = (.error err, e') ∧ e'.flows = e.flows) ∨
      ∃ graph e', e.create draft user clock = (.ok (e.drafted draft graph user clock), e') ∧
        (e.drafted draft graph user clock).IsCompiled ∧
        (e.drafted draft graph user clock).id ∉ e.flows.ids ∧
        e'.flows = { e.flows with
          flows := e.flows.flows ++ [e.drafted draft graph user clock] } := by
  generalize hout : e.create draft user clock = out
  unfold create at hout
  simp only at hout
  split at hout
  · exact .inl ⟨_, e, hout.symm, rfl⟩
  · next graph hgraph =>
    change settle _ _ (e.flows.create (e.drafted draft graph user clock)) = out at hout
    obtain ⟨-, hst⟩ | ⟨hnew, hst⟩ := e.flows.create_cases (e.drafted draft graph user clock)
    · rw [hst] at hout
      exact .inl ⟨_, _, hout.symm, rfl⟩
    · rw [hst] at hout
      exact .inr ⟨graph, _, hout.symm, ⟨_, hgraph⟩, hnew, rfl⟩

/-- The flow with a new name and description. -/
def renamed (w : Workflow) (change : Workflow.Change) (clock : Clock) : Workflow :=
  { w with
    name := change.name.getD w.name
    description := change.description.getD w.description
    updatedAt := clock.now }

/-- **A flow that is there is changed**, unless its new source makes no
graph. -/
theorem update_cases (hopen : e.flows.Open) (id : Uuid) (change : Workflow.Change) (user : String)
    (clock : Clock) :
    (∃ err e', e.update id change user clock = (.error err, e') ∧ e'.flows = e.flows) ∨
      ∃ w w' e', e.update id change user clock = (.ok w', e') ∧ w ∈ e.flows.flows ∧ w.id = id ∧
        Revises change.source w w' ∧ e'.flows.flows = e.flows.placed w' ∧
        e'.flows.versions = e.flows.versions ∧ e'.flows.Open := by
  generalize hout : e.update id change user clock = out
  unfold update at hout
  split at hout
  · exact .inl ⟨_, e, hout.symm, rfl⟩
  · next w' ids hw' =>
    obtain ⟨w, hw, hsource⟩ := bind_eq_ok_iff.1 hw'
    obtain ⟨hmem, hid⟩ := require_eq_ok hw
    have hrevises := revises_of_withSource hsource
    change settle _ _ (e.flows.update (renamed w' change clock)) = out at hout
    have hfound : (renamed w' change clock).id ∈ e.flows.ids := hrevises.id ▸ Store.mem_ids hmem
    obtain ⟨st', hst, hflows, hversions, hgates⟩ := Store.update_of_open hopen hfound
    rw [hst] at hout
    exact .inr ⟨w, _, _, hout.symm, hmem, hid,
      ⟨hrevises.id, hrevises.published, hrevises.source, hrevises.compiled⟩,
      hflows, hversions, hgates⟩

/-- **A version is put in beside its flow**, and if its number is used
already, the flow is put back. -/
theorem putVersion_cases (hopen : st.Open) (hsound : st.Sound) (hw : w ∈ st.flows)
    (hid : v.workflowId = w.id) (hactive : v.isActive = true) (clock : Clock) :
    (∃ err st', putVersion st w v clock = (.error err, st') ∧ st.Same st' ∧ st'.Open) ∨
      ∃ st', putVersion st w v clock = (.ok v, st') ∧
        v.number ∉ (st.issued v.workflowId).map (·.number) ∧
        st'.flows = st.placed (publishedAt w clock) ∧
        st'.versions = st.revised v.workflowId (·.retired) ++ [v] ∧ st'.Open := by
  generalize hout : putVersion st w v clock = out
  unfold putVersion at hout
  have hfound : w.id ∈ st.ids := Store.mem_ids hw
  obtain ⟨st₁, hst₁, hflows₁, hversions₁, hopen₁⟩ :=
    Store.update_of_open (w := publishedAt w clock) hopen hfound
  have hupdate : st.update { w with isPublished := true, updatedAt := clock.now } =
    (.ok (publishedAt w clock), st₁) := hst₁
  simp only [hupdate] at hout
  have hids₁ : st₁.ids = st.ids := Store.ids_placed hflows₁
  have hissued₁ := Store.issued_congr hversions₁
  have hvid : v.workflowId ∈ st₁.ids := by
    rw [hids₁, hid]
    exact hfound
  obtain ⟨-, st₂, hst₂, hsame₂, hopen₂⟩ | ⟨hnew, st₂, hst₂, hflows₂, hversions₂, hopen₂⟩ :=
    Store.createVersion_of_open hopen₁ hvid hactive
  · -- the flow is put back into the place that it had
    have hids₂ : st₂.ids = st.ids := by rw [← hids₁, Store.ids, Store.ids, hsame₂.flows]
    obtain ⟨st₃, hst₃, hflows₃, hversions₃, hopen₃⟩ :=
      Store.update_of_open (w := w) hopen₂ (hids₂ ▸ hfound)
    simp only [hst₂, hst₃] at hout
    have hback : st₂.placed w = st.flows := by
      rw [Store.placed_placed (w := w) (hsame₂.flows.trans hflows₁) rfl,
        Store.placed_self hsound.tidy hw]
    refine .inl ⟨_, _, hout.symm, ⟨hflows₃.trans hback, ?_⟩, hopen₃⟩
    exact hversions₃.trans (hsame₂.versions.trans hversions₁)
  · simp only [hst₂] at hout
    refine .inr ⟨_, hout.symm, hissued₁ v.workflowId ▸ hnew, hflows₂.trans hflows₁, ?_, hopen₂⟩
    rw [hversions₂, Store.revised, hversions₁, Store.revised]

/-- The version that a publication keeps of a flow. -/
def versioned (e : Engine) (w : Workflow) (number notes user : String) (clock : Clock) :
    Version where
  id := e.ids.next
  workflowId := w.id
  number
  snapshot := w.source
  notes
  isActive := true
  createdBy := user
  createdAt := clock.now

/-- **A flow that is there is published**, unless its graph has errors or
the number is used already. -/
theorem publish_cases (hopen : e.flows.Open) (hsound : e.flows.Sound) (id : Uuid)
    (number notes user : String) (clock : Clock) :
    (∃ err e', e.publish id number notes user clock = (.error err, e') ∧
      e.flows.Same e'.flows ∧ e'.flows.Open) ∨
      ∃ w e', e.publish id number notes user clock =
          (.ok (e.versioned w number notes user clock), e') ∧
        w ∈ e.flows.flows ∧ w.id = id ∧ w.graph.validate.isValid = true ∧
        number ∉ (e.flows.issued id).map (·.number) ∧
        e'.flows.flows = e.flows.placed (publishedAt w clock) ∧
        e'.flows.versions =
          e.flows.revised id (·.retired) ++ [e.versioned w number notes user clock] ∧
        e'.flows.Open := by
  generalize hout : e.publish id number notes user clock = out
  unfold publish at hout
  split at hout
  · exact .inl ⟨_, e, hout.symm, ⟨rfl, rfl⟩, hopen⟩
  · next w hw =>
    obtain ⟨hmem, rfl⟩ := require_eq_ok hw
    simp only at hout
    split at hout
    · next hvalid =>
      change settle _ _ (putVersion e.flows w (e.versioned w number notes user clock) clock) =
        out at hout
      obtain ⟨err, st', hst, hsame, hgates⟩ | ⟨st', hst, hnew, hflows, hversions, hgates⟩ :=
        putVersion_cases (v := e.versioned w number notes user clock) hopen hsound hmem rfl rfl
          clock
      · rw [hst] at hout
        exact .inl ⟨_, _, hout.symm, hsame, hgates⟩
      · rw [hst] at hout
        exact .inr ⟨w, _, hout.symm, hmem, rfl, hvalid, hnew, hflows, hversions, hgates⟩
    · exact .inl ⟨_, e, hout.symm, ⟨rfl, rfl⟩, hopen⟩

/-- A deletion is one of the store. -/
theorem delete_eq (e : Engine) (id : Uuid) (user : String) (clock : Clock) :
    (e.delete id user clock).1 = (e.flows.delete id).1 ∧
      (e.delete id user clock).2.flows = (e.flows.delete id).2 := by
  unfold delete
  split
  · next flows h => exact ⟨congrArg (·.1) h.symm, congrArg (·.2) h.symm⟩
  · next flows h => exact ⟨congrArg (·.1) h.symm, congrArg (·.2) h.symm⟩

/-- **A version that is there is activated.** -/
theorem activate_cases (e : Engine) (id : Uuid) (number user : String) (clock : Clock) :
    (∃ err e', e.activateVersion id number user clock = (.error err, e') ∧ e'.flows = e.flows) ∨
      ∃ v e', e.activateVersion id number user clock = (.ok v, e') ∧
        number ∈ (e.flows.issued id).map (·.number) ∧
        e'.flows = { e.flows with versions := e.flows.revised id (·.marked number) } := by
  unfold activateVersion
  obtain ⟨-, hst⟩ | ⟨hknown, v, hst⟩ := e.flows.activateVersion_cases id number
  · rw [hst]
    exact .inl ⟨_, _, rfl, rfl⟩
  · rw [hst]
    exact .inr ⟨v, _, rfl, hknown, rfl⟩

/-- **What becomes of an operation.** -/
theorem performs (hopen : e.flows.Open) (hsound : e.flows.Sound) (op : Operation) :
    e.Performs op := by
  cases op with
  | create draft user clock =>
    obtain ⟨err, e', h, hflows⟩ | ⟨graph, e', h, hcompiled, hnew, hflows⟩ :=
      e.create_cases draft user clock
    · exact .failed (by rw [perform, h]) (by rw [does, h]; rfl) (hflows ▸ ⟨rfl, rfl⟩)
        (hflows ▸ hopen)
    · refine .succeeded (by rw [perform, h]) (by rw [does, h]; rfl) ?_ ?_ <;> rw [hflows]
      · exact .created (w := e.drafted draft graph user clock) (by rw [h]) hnew rfl rfl hcompiled
          rfl rfl
      · exact ⟨hopen.updates, hopen.publications⟩
  | update id change user clock =>
    obtain ⟨err, e', h, hflows⟩ | ⟨w, w', e', h, hmem, hid, hrevises, hflows, hversions, hgates⟩ :=
      update_cases hopen id change user clock
    · exact .failed (by rw [perform, h]) (by rw [does, h]; rfl) (hflows ▸ ⟨rfl, rfl⟩)
        (hflows ▸ hopen)
    · exact .succeeded (by rw [perform, h]) (by rw [does, h]; rfl)
        (.updated (by rw [h]) hmem hid hrevises hflows hversions) hgates
  | delete id user clock =>
    obtain ⟨hanswer, hflows⟩ := e.delete_eq id user clock
    have hgates : (e.delete id user clock).2.flows.Open := by
      rw [hflows]
      exact ⟨hopen.updates, hopen.publications⟩
    by_cases hid : id ∈ e.flows.ids
    · refine .succeeded rfl ?_ ?_ hgates
      · rw [does, hanswer]
        exact Store.isSome_find?_iff.2 hid
      · rw [perform, hflows]
        exact .deleted rfl rfl
    · refine .failed rfl ?_ ?_ hgates
      · rw [does, hanswer]
        exact Bool.eq_false_iff.2 (mt Store.isSome_find?_iff.1 hid)
      · rw [perform, hflows]
        exact Store.same_of_delete hsound.tidy hid
  | publish id number notes user clock =>
    obtain ⟨err, e', h, hsame, hgates⟩ |
        ⟨w, e', h, hmem, hid, hvalid, hnew, hflows, hversions, hgates⟩ :=
      publish_cases hopen hsound id number notes user clock
    · exact .failed (by rw [perform, h]) (by rw [does, h]; rfl) hsame hgates
    · exact .succeeded (by rw [perform, h]) (by rw [does, h]; rfl)
        (.published (by rw [h]) hmem hid hvalid hid rfl rfl hnew hflows hversions) hgates
  | activate id number user clock =>
    obtain ⟨err, e', h, hflows⟩ | ⟨v, e', h, hknown, hflows⟩ :=
      e.activate_cases id number user clock
    · exact .failed (by rw [perform, h]) (by rw [does, h]; rfl) (hflows ▸ ⟨rfl, rfl⟩)
        (hflows ▸ hopen)
    · refine .succeeded (by rw [perform, h]) (by rw [does, h]; rfl) ?_ ?_ <;> rw [hflows]
      · exact .activated hknown rfl rfl
      · exact ⟨hopen.updates, hopen.publications⟩

/-! ## Runs of operations -/

/-- **An operation keeps the store sound and faithful.** -/
theorem Performs.keeps {op : Operation} (h : e.Performs op) (hsound : e.flows.Sound)
    (hfaithful : e.flows.Faithful) :
    (e.perform op).flows.Sound ∧ (e.perform op).flows.Faithful := by
  obtain ⟨-, hsame⟩ | ⟨-, heffect⟩ := h.records
  · exact ⟨hsound.same hsame, hfaithful.same hsame⟩
  generalize (e.perform op).flows = st' at heffect
  cases heffect with
  | created answer new unpublished source compiled flows versions =>
    exact ⟨hsound.create new unpublished flows versions, hfaithful.create compiled flows versions⟩
  | updated answer found hid revises flows versions =>
    exact ⟨hsound.place found revises.id.symm revises.published flows versions,
      hfaithful.place (revises.compiled (hfaithful.compiled _ found)) flows versions⟩
  | deleted flows versions =>
    exact ⟨hsound.delete flows versions, hfaithful.delete flows versions⟩
  | @published id number notes user clock w v answer found hid valid hv active snapshot new
      flows versions =>
    subst hid
    have hw := hfaithful.compiled w found
    have hstored : w.id ∈ e.flows.ids := Store.mem_ids found
    refine ⟨hsound.publish (w := publishedAt w clock) hstored rfl hv active new flows versions,
      hfaithful.publish (w := publishedAt w clock) hw ?_ flows versions⟩
    rw [snapshot]
    exact hw.deployable valid
  | activated known flows versions =>
    exact ⟨hsound.activate known flows versions, hfaithful.activate flows versions⟩

/-! ## The versions of a flow -/

/-- The versions of a flow that have been published since it was last
deleted, given those before an operation. -/
def noted (e : Engine) (id : Uuid) (vs : List Version) : Operation → List Version
  | .publish id' number notes user clock =>
    if id' = id then vs ++ (e.publish id' number notes user clock).1.toOption.toList else vs
  | .delete id' _ _ => if id' = id then [] else vs
  | .create _ _ _ | .update _ _ _ _ | .activate _ _ _ _ => vs

/-- **The versions of a flow that were published** in some operations
since it was last deleted in one of them, in order. -/
def publishedBy (e : Engine) (id : Uuid) (ops : List Operation) : List Version :=
  (ops.foldl (fun p op => (p.1.perform op, p.1.noted id p.2 op)) (e, [])).2

theorem publishedBy_concat (e : Engine) (id : Uuid) (ops : List Operation) (op : Operation) :
    e.publishedBy id (ops ++ [op]) = (e.performAll ops).noted id (e.publishedBy id ops) op := by
  have hengine : (ops.foldl (fun p op => (p.1.perform op, p.1.noted id p.2 op)) (e, [])).1 =
      e.performAll ops := by
    induction ops using List.reverseRecOn with
    | nil => rfl
    | append_singleton ops op ih => rw [List.foldl_concat, performAll_concat, ← ih]
  rw [publishedBy, List.foldl_concat, hengine, publishedBy]

/-- **The versions of a flow are those that are noted of it**, the mark
of the active one apart. -/
theorem Performs.issued {op : Operation} (h : e.Performs op) {vs : List Version}
    (hvs : (e.flows.issued id).map (·.retired) = vs.map (·.retired)) :
    ((e.perform op).flows.issued id).map (·.retired) = (e.noted id vs op).map (·.retired) := by
  cases op with
  | delete id' user clock =>
    -- the versions go in any case, also with a flow that is not there
    have hversions : (e.perform (.delete id' user clock)).flows.versions =
        e.flows.versions.filter (·.workflowId != id') :=
      congrArg Store.versions (e.delete_eq id' user clock).2
    rw [Store.issued_of_delete hversions, noted]
    by_cases hid : id' = id
    · rw [if_pos hid, if_pos hid.symm]
    · rw [if_neg hid, if_neg (Ne.symm hid), hvs]
  | create draft user clock =>
    obtain ⟨-, hsame⟩ | ⟨-, heffect⟩ := h.records
    · rw [Store.issued_congr hsame.versions, hvs, noted]
    · cases heffect with
      | created answer new unpublished source compiled flows versions =>
        rw [Store.issued_congr versions, hvs, noted]
  | update id' change user clock =>
    obtain ⟨-, hsame⟩ | ⟨-, heffect⟩ := h.records
    · rw [Store.issued_congr hsame.versions, hvs, noted]
    · cases heffect with
      | updated answer found hid revises flows versions =>
        rw [Store.issued_congr versions, hvs, noted]
  | publish id' number notes user clock =>
    obtain ⟨hdoes, hsame⟩ | ⟨-, heffect⟩ := h.records
    · rw [Store.issued_congr hsame.versions, hvs, noted, toOption_eq_none hdoes,
        Option.toList_none, List.append_nil, ite_self]
    · cases heffect with
      | @published _ _ _ _ _ w v answer found hid valid hv active snapshot new flows versions =>
        rw [Store.issued_of_publish versions hv, noted, answer]
        by_cases heq : id' = id
        · subst heq
          rw [if_pos rfl, if_pos rfl, List.map_append, List.map_append,
            Workflow.map_retired_map (f := Version.retired) fun _ => rfl, hvs]
          rfl
        · rw [if_neg heq, if_neg (Ne.symm heq), hvs]
  | activate id' number user clock =>
    obtain ⟨-, hsame⟩ | ⟨-, heffect⟩ := h.records
    · rw [Store.issued_congr hsame.versions, hvs, noted]
    · cases heffect with
      | activated known flows versions =>
        rw [Store.issued_of_activate versions, noted]
        split
        · next heq =>
          rw [Workflow.map_retired_map (f := Version.marked number) fun _ => rfl, ← heq, hvs]
        · exact hvs

/-- **Whatever is done to flows keeps their versions in order.** From a
store without flows on, after any operations, the versions of each flow
differ in their numbers, one of them is active if there are any, they are
those that were published since the flow was last deleted, and their
sources make graphs without errors. -/
theorem versions_in_order (e : Engine) (ops : List Operation) (id : Uuid) :
    (({ e with flows := {} } : Engine).performAll ops).flows.VersionsInOrder id
      (({ e with flows := {} } : Engine).publishedBy id ops) := by
  generalize hstart : ({ e with flows := {} } : Engine) = start
  have hempty : start.flows = {} := by rw [← hstart]
  suffices hall : (start.performAll ops).flows.Open ∧ (start.performAll ops).flows.Sound ∧
      (start.performAll ops).flows.Faithful ∧
      ((start.performAll ops).flows.issued id).map (·.retired) =
        (start.publishedBy id ops).map (·.retired) from
    Store.versionsInOrder hall.2.1 hall.2.2.1 hall.2.2.2
  induction ops using List.reverseRecOn with
  | nil =>
    rw [performAll, List.foldl_nil, hempty]
    exact ⟨Store.open_empty, Store.sound_empty, Store.faithful_empty, rfl⟩
  | append_singleton ops op ih =>
    obtain ⟨hopen, hsound, hfaithful, hissued⟩ := ih
    have hperforms := performs hopen hsound op
    obtain ⟨hsound', hfaithful'⟩ := hperforms.keeps hsound hfaithful
    rw [performAll_concat, publishedBy_concat]
    exact ⟨hperforms.gates, hsound', hfaithful', hperforms.issued hissued⟩

/-- A flow with a start and an end. -/
def shortText : String :=
  "\x7b\"s\":\x7b\"type\":\"StartNode\"\x7d,\"e\":\x7b\"type\":\"EndNode\"\x7d\x7d"

/-- A flow is published twice, and once more with a number that is used
already; then its first version is activated. -/
def relaunch (id : Uuid) : List Operation := [
  .create { id := some id, name := "", source := shortText } "" default,
  .publish id "1" "" "" default,
  .publish id "2" "" "" default,
  .publish id "1" "" "" default,
  .activate id "1" "" default]

example : ((({ ids := .random 0 } : Engine).performAll (relaunch .nil)).flows.versionsOf .nil).map
    (fun v => (v.number, v.isActive)) = [("2", false), ("1", true)] := by
  decide +kernel

end Engine

end Flowchart
