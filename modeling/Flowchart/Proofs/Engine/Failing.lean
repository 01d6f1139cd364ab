import Flowchart.Proofs.Engine.Events
import Flowchart.Proofs.Workflow.Refusals

/-!
# Operations that fail

An operation that fails leaves no trace: the flows, the versions and the
log are as before (`failures_leave_no_trace`). Only a publication writes
more than once. If its version is turned down, it puts the flow back, and
for this the gate of the store has to let the second write through as it
did the first one (`Restores`); any other write may be refused.
-/

namespace Flowchart

namespace Engine

open Workflow (Store Version)

variable {e : Engine} {st : Store} {w : Workflow} {v : Version}

/-- A flow that a publication has marked can be put back. -/
def Restores (e : Engine) : Operation → Prop
  | .publish _ _ _ _ _ => e.flows.updates.Relents
  | .create _ _ _ | .update _ _ _ _ | .delete _ _ _ | .activate _ _ _ _ => True

/-! ## Publications -/

theorem tidy_putVersion (h : st.Tidy) (w : Workflow) (v : Version) (clock : Clock) :
    (putVersion st w v clock).2.Tidy := by
  have hmarked : (st.update (publishedAt w clock)).2.Tidy := h.update _
  have hversioned := hmarked.createVersion v
  unfold putVersion
  split
  · next hst => exact congrArg Prod.snd hst ▸ hmarked
  · next st₁ hst =>
    obtain rfl : (st.update (publishedAt w clock)).2 = st₁ := congrArg Prod.snd hst
    split
    · next st₂ hst₂ =>
      obtain rfl : ((st.update (publishedAt w clock)).2.createVersion v).2 = st₂ :=
        congrArg Prod.snd hst₂
      exact hversioned
    · next st₂ hst₂ =>
      obtain rfl : ((st.update (publishedAt w clock)).2.createVersion v).2 = st₂ :=
        congrArg Prod.snd hst₂
      exact hversioned.update w

/-- **A flow whose version is turned down is put back**, be it that the
number is used already or that the gate refuses. -/
theorem same_of_putVersion (h : st.Tidy) (hw : w ∈ st.flows) (hrelents : st.updates.Relents)
    {clock : Clock} (hfails : (putVersion st w v clock).1.isOk = false) :
    st.Same (putVersion st w v clock).2 := by
  unfold putVersion at hfails ⊢
  obtain ⟨err, st₁, hst₁, hsame⟩ |
      ⟨st₁, hst₁, -, hflows₁, hversions₁, hpass, hgate₁⟩ := st.update_cases (publishedAt w clock)
  · have hupdate : st.update { w with isPublished := true, updatedAt := clock.now } =
      (.error err, st₁) := hst₁
    simp only [hupdate]
    exact hsame
  · have hupdate : st.update { w with isPublished := true, updatedAt := clock.now } =
      (.ok (publishedAt w clock), st₁) := hst₁
    simp only [hupdate] at hfails ⊢
    obtain ⟨err, st₂, hst₂, hsame₂, hgate₂⟩ | ⟨st₂, hst₂, -⟩ := st₁.createVersion_cases v
    · simp only [hst₂]
      -- the gate lets the second update through, and that undoes the first one
      have hpass₂ : st₂.updates.refusal st₂.updates.tried = none := by
        rw [hgate₂, hgate₁]
        exact hrelents hpass
      have hids₂ : w.id ∈ st₂.ids := by
        rw [hsame₂.ids_eq, Store.ids_placed hflows₁]
        exact Store.mem_ids hw
      obtain ⟨hflows, hversions⟩ := Store.update_of_pass hpass₂ hids₂
      refine ⟨?_, hversions.trans (hsame₂.versions.trans hversions₁)⟩
      rw [hflows, Store.placed_placed (w := w) (hsame₂.flows.trans hflows₁) rfl,
        Store.placed_self h hw]
    · simp only [hst₂] at hfails
      cases hfails

/-! ## One operation -/

/-- **Every operation leaves the identifiers in order**, whatever the
gates refuse. -/
theorem tidy_perform (h : e.flows.Tidy) (op : Operation) : (e.perform op).flows.Tidy := by
  cases op with
  | create draft user clock =>
    unfold perform create
    simp only
    split
    · exact h
    · rw [flows_settle]
      exact h.create _
  | update id change user clock =>
    unfold perform update
    simp only
    split
    · exact h
    · rw [flows_settle]
      exact h.update _
  | delete id user clock =>
    rw [perform, (e.delete_eq id user clock).2]
    exact h.delete id
  | publish id number notes user clock =>
    unfold perform publish
    simp only
    split
    · exact h
    · split
      · rw [flows_settle]
        exact tidy_putVersion h ..
      · exact h
  | activate id number user clock =>
    rw [perform, activateVersion, flows_settle]
    exact h.activateVersion id number

/-- **An operation that fails leaves the flows and the versions.** -/
theorem same_of_fails (h : e.flows.Tidy) {op : Operation} (hfails : e.does op = false)
    (hrestores : e.Restores op) : e.flows.Same (e.perform op).flows := by
  cases op with
  | create draft user clock =>
    obtain ⟨err, e', hout, hflows⟩ | ⟨graph, e', hout, -⟩ := e.create_cases draft user clock
    · rw [perform, hout]
      exact hflows ▸ .refl _
    · rw [does, hout] at hfails
      cases hfails
  | update id change user clock =>
    unfold does update at hfails
    unfold perform update
    simp only at hfails ⊢
    split at hfails
    · exact .refl _
    · next w ids hw =>
      rw [isOk_settle] at hfails
      rw [flows_settle]
      obtain ⟨err, st', hst, hsame⟩ | ⟨st', hst, -⟩ := e.flows.update_cases _
      · rw [hst]
        exact hsame
      · rw [hst] at hfails
        cases hfails
  | delete id user clock =>
    obtain ⟨hanswer, hflows⟩ := e.delete_eq id user clock
    rw [does, hanswer] at hfails
    rw [perform, hflows]
    refine Store.same_of_delete h fun hid => ?_
    exact Bool.false_ne_true (hfails.symm.trans (Store.isSome_find?_iff.2 hid))
  | publish id number notes user clock =>
    unfold does publish at hfails
    unfold perform publish
    simp only at hfails ⊢
    split at hfails
    · exact .refl _
    · next w hw =>
      by_cases hvalid : w.graph.validate.isValid = true
      · rw [if_pos hvalid, isOk_settle] at hfails
        rw [if_pos hvalid, flows_settle]
        exact same_of_putVersion h (require_eq_ok hw).1 hrestores hfails
      · rw [if_neg hvalid]
        exact .refl _
  | activate id number user clock =>
    obtain ⟨err, e', hout, hflows⟩ | ⟨v, e', hout, -⟩ := e.activate_cases id number user clock
    · rw [perform, hout]
      exact hflows ▸ .refl _
    · rw [does, hout] at hfails
      cases hfails

/-! ## The main statement -/

/-- **The operation leaves no trace.** -/
structure Traceless (e : Engine) (op : Operation) : Prop where
  /-- All flows and versions are as before. -/
  records : e.flows.Same (e.perform op).flows
  /-- The log is as before. -/
  audit : (e.perform op).audit = e.audit

/-- **What fails leaves no trace.** From a store without flows on,
whatever has happened, an operation that fails leaves the flows, the
versions and the log as they are. So it does in a store whose gates
refuse whichever updates and versions, as long as the gate does not
refuse to put back a flow that it has let a publication mark. -/
theorem failures_leave_no_trace (events : List Event) (op : Operation) :
    (∀ start : Engine, start.flows = {} → (start.handleAll events).does op = false →
      (start.handleAll events).Traceless op) ∧
    ∀ start : Engine, start.flows.flows = [] → start.flows.versions = [] →
      (start.handleAll events).does op = false → (start.handleAll events).Restores op →
        (start.handleAll events).Traceless op := by
  have hall : ∀ start : Engine, start.flows.flows = [] → start.flows.versions = [] →
      (start.handleAll events).does op = false → (start.handleAll events).Restores op →
        (start.handleAll events).Traceless op := by
    intro start hflows hversions hfails hrestores
    have htidy : (start.handleAll events).flows.Tidy :=
      flows_handleAll (P := Store.Tidy) (Store.tidy_of_empty hflows hversions)
        (fun _ op h => tidy_perform h op) events
    exact ⟨same_of_fails htidy hfails hrestores, audit_perform_of_fails hfails⟩
  refine ⟨fun start hempty hfails => ?_, hall⟩
  refine hall start (by rw [hempty]) (by rw [hempty]) hfails ?_
  have hopen := (wellKept_handleAll hempty events).1
  cases op with
  | publish => exact fun _ => hopen.updates _
  | create | update | delete | activate => trivial

/-- Refuses the first write only. -/
def refusesFirst : Storage.Gate where
  refusal k := if k = 0 then some "full" else none

/-- A flow is made and then published. -/
def launched (id : Uuid) : List Event :=
  ((relaunch id).take 2).map .operation

/-- **A number that is used already and a version that is refused leave
no trace**: the flow that is published stays as it was published first,
and the one whose first version is refused stays unpublished. -/
theorem launch_failures_leave_no_trace :
    let again : Operation := .publish .nil "1" "" "" default
    let published := ({ ids := .random 0 } : Engine).handleAll (launched .nil)
    let refusing := ({ ids := .random 0, flows := { publications := refusesFirst } } :
      Engine).handleAll ((launched .nil).take 1)
    (published.does again = false ∧ published.Traceless again) ∧
      refusing.does again = false ∧ refusing.Traceless again := by
  obtain ⟨hused, -⟩ := failures_leave_no_trace (launched .nil) (.publish .nil "1" "" "" default)
  obtain ⟨-, hgate⟩ :=
    failures_leave_no_trace ((launched .nil).take 1) (.publish .nil "1" "" "" default)
  have hagain : (({ ids := .random 0 } : Engine).handleAll (launched .nil)).does
      (.publish .nil "1" "" "" default) = false := by decide +kernel
  have hrefused : (({ ids := .random 0, flows := { publications := refusesFirst } } :
      Engine).handleAll ((launched .nil).take 1)).does (.publish .nil "1" "" "" default) =
        false := by decide +kernel
  have hopen : (({ ids := .random 0, flows := { publications := refusesFirst } } :
      Engine).handleAll ((launched .nil).take 1)).flows.updates.refusal
        ((({ ids := .random 0, flows := { publications := refusesFirst } } :
          Engine).handleAll ((launched .nil).take 1)).flows.updates.tried + 1) = none := by
    decide +kernel
  exact ⟨⟨hagain, hused _ rfl hagain⟩, hrefused, hgate _ rfl rfl hrefused fun _ => hopen⟩

end Engine

end Flowchart
