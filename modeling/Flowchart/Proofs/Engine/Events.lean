import Flowchart.Proofs.Engine.Calls
import Flowchart.Proofs.Engine.Lifecycle

/-!
# Operations and calls, one after another

What happens to an engine is an operation on its flows or a call that may
run a session (`Event`). Operations leave the sessions alone and calls
leave the flows alone (`sessions_perform`, `flows_execute`). Each of them
writes at most one entry into the log: an operation just if it does what
it is asked for (`audit_perform`), a call just if it runs a session
(`audit_serve`).
-/

namespace Flowchart

/-- **The last one of its kind** after one more: that one, if it is of the
kind. -/
theorem getLast?_filter_concat {α : Type} (p : α → Bool) (xs : List α) (x : α) :
    ((xs ++ [x]).filter p).getLast? = if p x then some x else (xs.filter p).getLast? := by
  rw [List.filter_append]
  cases h : p x with
  | true => simp [h]
  | false => simp [h]

namespace Engine

open Workflow (Store)

/-- Something that happens to an engine. -/
inductive Event where
  /-- Something is done to flows. -/
  | operation (op : Operation)
  /-- A request is made. -/
  | call (c : Call)
deriving Inhabited

/-- The engine after an event. -/
def handle (e : Engine) : Event → Engine
  | .operation op => e.perform op
  | .call c => (e.execute c.request c.clock).2

/-- The engine after some events. -/
def handleAll (e : Engine) (events : List Event) : Engine :=
  events.foldl handle e

variable {e e₀ : Engine} {w : Workflow} {c : Call} {g : Graph} {s : Session}

@[simp] theorem handleAll_nil : e.handleAll [] = e := rfl

theorem handleAll_concat (e : Engine) (events : List Event) (event : Event) :
    e.handleAll (events ++ [event]) = (e.handleAll events).handle event :=
  List.foldl_concat ..

/-! ## What a store answers goes into the log -/

section settle

variable {α : Type} (e : Engine) (note : α → Audit.Entry)
variable (out : Except Storage.Error α × Store)

@[simp] theorem flows_settle : (e.settle note out).2.flows = out.2 := by
  rcases out with ⟨_ | a, st⟩ <;> rfl

theorem settle_eq : ∃ flows audit, (e.settle note out).2 = { e with flows, audit } := by
  rcases out with ⟨_ | a, st⟩ <;> exact ⟨_, _, rfl⟩

@[simp] theorem isOk_settle : (e.settle note out).1.isOk = out.1.isOk := by
  rcases out with ⟨_ | a, st⟩ <;> rfl

/-- **A success of the store is noted**, and nothing else is. -/
theorem audit_settle : (e.settle note out).2.audit =
    ((e.settle note out).1.toOption.map note).elim e.audit e.audit.record := by
  rcases out with ⟨_ | a, st⟩ <;> rfl

end settle

/-! ## Operations -/

/-- The flow that an operation is about. -/
def subject (e : Engine) : Operation → Uuid
  | .create draft _ _ => draft.id.getD e.ids.next
  | .update id _ _ _ | .delete id _ _ | .publish id _ _ _ _ | .activate id _ _ _ => id

/-- A flow is made under the identifier that the operation is about. -/
theorem subject_of_create {draft : Workflow.Draft} {user : String} {clock : Clock}
    (h : (e.create draft user clock).1 = .ok w) : w.id = e.subject (.create draft user clock) := by
  obtain ⟨err, e', hout, -⟩ | ⟨graph, e', hout, -⟩ := e.create_cases draft user clock
  · rw [hout] at h
    cases h
  · rw [hout] at h
    obtain rfl := Except.ok.inj h
    rfl

/-- What the log calls an operation. -/
def Operation.action : Operation → Audit.Action
  | .create _ _ _ => .created
  | .update _ _ _ _ => .updated
  | .delete _ _ _ => .deleted
  | .publish _ _ _ _ _ => .published
  | .activate _ _ _ _ => .versionActivated

/-- **An operation changes the flows and the log** and may draw
identifiers; it leaves all else alone. -/
theorem perform_eq (e : Engine) (op : Operation) :
    ∃ flows audit ids, e.perform op = { e with flows, audit, ids } := by
  have hsettle : ∀ {α : Type} (ids : IdSource) (note : α → Audit.Entry) out,
      ∃ flows audit ids', (settle { e with ids } note out).2 =
        { e with flows, audit, ids := ids' } := by
    intro α ids note out
    obtain ⟨flows, audit, h⟩ := settle_eq { e with ids } note out
    exact ⟨flows, audit, ids, h⟩
  cases op with
  | create draft user clock =>
    unfold perform create
    simp only
    split
    · exact ⟨_, _, _, rfl⟩
    · exact hsettle ..
  | update id change user clock =>
    unfold perform update
    simp only
    split
    · exact ⟨_, _, _, rfl⟩
    · exact hsettle ..
  | delete id user clock =>
    simp only [perform, delete]
    split <;> exact ⟨_, _, _, rfl⟩
  | publish id number notes user clock =>
    unfold perform publish
    simp only
    split
    · exact ⟨_, _, _, rfl⟩
    · split
      · exact hsettle ..
      · exact ⟨_, _, _, rfl⟩
  | activate id number user clock => exact hsettle e.ids ..

/-- **An operation leaves the sessions alone.** -/
theorem sessions_perform (e : Engine) (op : Operation) : (e.perform op).sessions = e.sessions := by
  obtain ⟨flows, audit, ids, h⟩ := e.perform_eq op
  rw [h]

/-- An operation leaves the executors alone. -/
theorem registry_perform (e : Engine) (op : Operation) : (e.perform op).registry = e.registry := by
  obtain ⟨flows, audit, ids, h⟩ := e.perform_eq op
  rw [h]

/-- The entry that an operation makes in the log, if it does what it is
asked for. -/
def noteOf (e : Engine) : Operation → Option Audit.Entry
  | .create draft user clock => (e.create draft user clock).1.toOption.map fun w =>
      entry (e.subject (.create draft user clock)) .created user clock (nameOf w)
  | .update id change user clock => (e.update id change user clock).1.toOption.map fun w =>
      entry id .updated user clock (nameOf w)
  | .delete id user clock =>
      if (e.delete id user clock).1 then some (entry id .deleted user clock .null) else none
  | .publish id number notes user clock =>
      (e.publish id number notes user clock).1.toOption.map fun v =>
        entry id .published user clock (notesOf v)
  | .activate id number user clock =>
      (e.activateVersion id number user clock).1.toOption.map fun v =>
        entry id .versionActivated user clock (.object [("versionNumber", .string v.number)])

/-- **An operation makes an entry just if it does what it is asked
for.** -/
theorem isSome_noteOf (e : Engine) (op : Operation) : (e.noteOf op).isSome = e.does op := by
  have hanswer : ∀ {ε α : Type} (x : Except ε α), x.toOption.isSome = x.isOk := by
    rintro ε α (_ | _) <;> rfl
  cases op with
  | delete id user clock =>
    simp only [noteOf, does]
    cases (e.delete id user clock).1 <;> rfl
  | create | update | publish | activate => rw [noteOf, does, Option.isSome_map, hanswer]

/-- The entry of an operation is about its flow, and says what was done
to it. -/
theorem of_noteOf_eq_some {op : Operation} {entry : Audit.Entry} (h : e.noteOf op = some entry) :
    entry.workflowId = e.subject op ∧ entry.action = op.action := by
  cases op with
  | delete id user clock =>
    obtain ⟨-, rfl⟩ : _ ∧ _ = entry := by simpa [noteOf] using h
    exact ⟨rfl, rfl⟩
  | create | update | publish | activate =>
    obtain ⟨_, -, rfl⟩ := Option.map_eq_some_iff.1 h
    exact ⟨rfl, rfl⟩

/-- **What an operation adds to the log is its entry.** -/
theorem audit_perform (e : Engine) (op : Operation) :
    (e.perform op).audit = (e.noteOf op).elim e.audit e.audit.record := by
  cases op with
  | create draft user clock =>
    unfold perform noteOf create
    simp only
    split
    · rfl
    · exact audit_settle ..
  | update id change user clock =>
    unfold perform noteOf update
    simp only
    split
    · rfl
    · exact audit_settle ..
  | delete id user clock =>
    obtain ⟨hanswer, -⟩ := e.delete_eq id user clock
    unfold perform noteOf
    simp only [hanswer]
    unfold delete
    split
    · next h => simp only [h]; rfl
    · next h => simp only [h]; rfl
  | publish id number notes user clock =>
    unfold perform noteOf publish
    simp only
    split
    · rfl
    · split
      · exact audit_settle ..
      · rfl
  | activate id number user clock => exact audit_settle ..

/-- An operation that fails leaves the log. -/
theorem audit_perform_of_fails {op : Operation} (h : e.does op = false) :
    (e.perform op).audit = e.audit := by
  have hnote : e.noteOf op = none := by
    rw [← Option.not_isSome_iff_eq_none, isSome_noteOf, h]
    exact Bool.false_ne_true
  rw [audit_perform, hnote, Option.elim_none]

/-! ## Calls -/

/-- **What a call that runs a session adds to the log.** -/
theorem audit_serve (e : Engine) (g : Graph) (s : Session) (c : Call) :
    (e.serve g s c).2.audit = e.audit.record
      (runEntry (e.runOf g s c e.network).session (e.serve g s c).1.success c.clock) := rfl

/-- A call that runs no session leaves the engine as it is. -/
theorem execute_of_not_runs (h : ¬ ∃ e₀ g s, e.Runs c e₀ g s) :
    (e.execute c.request c.clock).2 = e := by
  obtain ⟨e₀, g, s, hruns⟩ | ⟨id, s, message, error, -, -, hshown⟩ | ⟨-, id, reason, hrejected⟩ :=
    execute_cases e c
  · exact absurd ⟨e₀, g, s, hruns⟩ h
  · rw [hshown]
  · rw [hrejected]

/-- What a call runs is in front of the flows and the settings as they
were. -/
theorem Runs.kept (h : e.Runs c e₀ g s) : Kept e e₀ := by
  cases h with
  | opens => exact kept_draw e
  | resumes => exact .refl e

/-- What a call runs is in front of the log as it was. -/
theorem Runs.audit_eq (h : e.Runs c e₀ g s) : e₀.audit = e.audit := by
  cases h <;> rfl

/-- What a call runs is a session of its flow. -/
theorem Runs.workflowId_eq (h : e.Runs c e₀ g s) : s.workflowId = c.request.workflowId := by
  cases h with
  | opens => rfl
  | resumes hid => exact hid.2.symm

/-- A run goes through the graph of the flow that its session belongs
to. -/
theorem Runs.graph_eq (h : e.Runs c e₀ g s) :
    (e.flows.find? s.workflowId).map (·.graph) = some g := by
  cases h with
  | opens hopens =>
    unfold opening? at hopens
    split at hopens
    · cases hopens
    · obtain ⟨w, hw, hstart⟩ := Option.bind_eq_some_iff.1 hopens
      obtain ⟨node, -, hpair⟩ := Option.map_eq_some_iff.1 hstart
      obtain ⟨rfl, rfl⟩ := Prod.mk.inj hpair
      exact congrArg (Option.map _) hw
  | resumes hid hs hc hw => rw [hw, Option.map_some]

/-- **A call leaves the flows alone**, with the executors and the
settings. -/
theorem kept_execute (e : Engine) (c : Call) : Kept e (e.execute c.request c.clock).2 := by
  by_cases h : ∃ e₀ g s, e.Runs c e₀ g s
  · obtain ⟨e₀, g, s, hruns⟩ := h
    rw [execute_of_runs hruns]
    exact hruns.kept.trans (kept_serve e₀ g s c)
  · rw [execute_of_not_runs h]
    exact .refl e

/-! ## Runs of events -/

/-- **What holds of the flows of an engine and is kept by operations
holds after any events.** -/
theorem flows_handleAll {P : Store → Prop} (h : P e.flows)
    (hstep : ∀ (e : Engine) op, P e.flows → P (e.perform op).flows) (events : List Event) :
    P (e.handleAll events).flows := by
  induction events using List.reverseRecOn with
  | nil => exact h
  | append_singleton events event ih =>
    rw [handleAll_concat]
    cases event with
    | operation op => exact hstep _ op ih
    | call c =>
      rw [handle, (kept_execute _ c).flows]
      exact ih

/-- **From no flows on, whatever happens**: the gates of the store stay
open, and it stays sound and faithful. -/
theorem wellKept_handleAll (h : e.flows = {}) (events : List Event) :
    (e.handleAll events).flows.Open ∧ (e.handleAll events).flows.Sound ∧
      (e.handleAll events).flows.Faithful := by
  refine flows_handleAll (P := fun st => st.Open ∧ st.Sound ∧ st.Faithful) ?_ ?_ events
  · rw [h]
    exact ⟨Store.open_empty, Store.sound_empty, Store.faithful_empty⟩
  · rintro e op ⟨hopen, hsound, hfaithful⟩
    have hperforms := performs hopen hsound op
    exact ⟨hperforms.gates, hperforms.keeps hsound hfaithful⟩

end Engine

end Flowchart
