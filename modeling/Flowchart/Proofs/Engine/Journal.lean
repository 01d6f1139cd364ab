import Flowchart.Proofs.Engine.Events
import Flowchart.Proofs.Engine.Rest

/-!
# The log tells the truth

Whatever is done leaves one entry in the log, about its flow, and what
fails or does nothing leaves none. The entries of a flow tell when it was
there (`Truthful`): it is stored just if its last making or deletion was
a making, and all else that is told of it lies between the two. What is
told of a run agrees with its response and with the session as it is
stored (`Logs`). All this holds whatever operations and calls there have
been (`log_tells_truth`).
-/

namespace Flowchart

namespace Audit

variable {entries : List Entry} {x : Entry} {id : Uuid}

/-- The entry tells that a flow was made or deleted. -/
def Entry.marks (x : Entry) (id : Uuid) : Bool :=
  x.workflowId == id && (x.action == .created || x.action == .deleted)

/-- **The last making or deletion of a flow** that some entries tell. -/
def lastMark? (id : Uuid) (entries : List Entry) : Option Action :=
  (entries.filter (·.marks id)).getLast?.map (·.action)

theorem lastMark?_concat (id : Uuid) (entries : List Entry) (x : Entry) :
    lastMark? id (entries ++ [x]) = if x.marks id then some x.action else lastMark? id entries := by
  rw [lastMark?, getLast?_filter_concat]
  split
  · rfl
  · rfl

theorem Log.entries_record {l : Log} (h : l.keeps = true) (x : Entry) :
    (l.record x).entries = l.entries ++ [x] := by
  rw [Log.record, if_pos h]

theorem Log.keeps_record (l : Log) (x : Entry) : (l.record x).keeps = l.keeps := by
  rw [Log.record]
  split <;> rfl

/-- **A log tells when flows were there.** -/
structure Truthful (ids : List Uuid) (entries : List Entry) : Prop where
  /-- The flows that are there are those that were made last. -/
  stored : ∀ id, id ∈ ids ↔ lastMark? id entries = some .created
  /-- A flow is made when it is not there, and all else is done when it is. -/
  windows : ∀ before x, before ++ [x] <+: entries →
    (lastMark? x.workflowId before = some .created ↔ x.action ≠ .created)

/-- **One entry more** is true of the flows before it and after it. -/
structure Tells (x : Entry) (ids ids' : List Uuid) : Prop where
  /-- A flow is made just if it was not there. -/
  before : x.workflowId ∈ ids ↔ x.action ≠ .created
  /-- It is gone just if it was deleted, and other flows are as they were. -/
  after : ∀ id, id ∈ ids' ↔ if x.workflowId = id then x.action ≠ .deleted else id ∈ ids

theorem truthful_nil : Truthful [] [] := by
  refine ⟨fun id => ⟨nofun, nofun⟩, fun before x h => ?_⟩
  exact absurd (List.prefix_nil.1 h) (List.append_ne_nil_of_right_ne_nil _ (List.cons_ne_nil _ _))

/-- **A log stays true** with an entry that tells what happens. -/
theorem Truthful.concat {ids ids' : List Uuid} (h : Truthful ids entries) (hx : Tells x ids ids') :
    Truthful ids' (entries ++ [x]) := by
  refine ⟨fun id => ?_, fun before y hy => ?_⟩
  · rw [hx.after, lastMark?_concat, h.stored id]
    by_cases hid : x.workflowId = id
    · -- the entry is about this flow, and what it does not make or delete was there
      subst hid
      rw [if_pos rfl]
      by_cases hcreated : x.action = .created
      · simp [Entry.marks, hcreated]
      by_cases hdeleted : x.action = .deleted
      · simp [Entry.marks, hdeleted]
      · simp [Entry.marks, hcreated, hdeleted, ← h.stored, hx.before]
    · simp [Entry.marks, hid]
  · rcases List.prefix_concat_iff.1 hy with heq | hprefix
    · obtain ⟨rfl, hxy⟩ := List.append_inj' heq rfl
      obtain rfl := List.cons.inj hxy |>.1
      rw [← h.stored]
      exact hx.before
    · exact h.windows before y hprefix

end Audit

namespace Engine

open Audit (Truthful Tells lastMark?)
open Workflow (Store)

variable {e e₀ : Engine} {op : Operation} {c : Call} {g : Graph} {s : Session}

/-- What is done to a flow that is there and stays tells of it. -/
theorem tells_of_same {ids ids' : List Uuid} {x : Audit.Entry} (hids : ids' = ids)
    (hstored : x.workflowId ∈ ids) (hcreated : x.action ≠ .created)
    (hdeleted : x.action ≠ .deleted) : Tells x ids ids' := by
  refine ⟨iff_of_true hstored hcreated, fun id => ?_⟩
  rw [hids]
  split
  · next heq => exact iff_of_true (heq ▸ hstored) hdeleted
  · rfl

/-! ## Operations -/

/-- **The entry of an operation tells what becomes of its flow.** -/
theorem tells_perform (hopen : e.flows.Open) (hsound : e.flows.Sound) {x : Audit.Entry}
    (hnote : e.noteOf op = some x) : Tells x e.flows.ids (e.perform op).flows.ids := by
  have hdoes : e.does op = true := by rw [← isSome_noteOf, hnote]; rfl
  obtain ⟨hid, haction⟩ := of_noteOf_eq_some hnote
  obtain ⟨hfails, -⟩ | ⟨-, heffect⟩ := (performs hopen hsound op).records
  · exact absurd (hfails.symm.trans hdoes) Bool.false_ne_true
  generalize (e.perform op).flows = st' at heffect
  cases heffect with
  | @created draft user clock w answer new unpublished source compiled flows versions =>
    have hw : x.workflowId = w.id := hid.trans (subject_of_create answer).symm
    refine ⟨?_, fun id => ?_⟩
    · rw [hw, haction]
      exact iff_of_false new fun h => h rfl
    · rw [Store.ids, flows, List.map_append, List.mem_append, hw, haction]
      by_cases h : w.id = id
      · simp [h, Operation.action]
      · simp [h, Ne.symm h, Store.ids]
  | @deleted id user clock flows versions =>
    have hstored : id ∈ e.flows.ids := by
      rw [does, (e.delete_eq id user clock).1] at hdoes
      exact Store.isSome_find?_iff.1 hdoes
    refine ⟨?_, fun id' => ?_⟩
    · rw [hid, haction]
      exact iff_of_true hstored (by simp [Operation.action])
    · rw [← Store.isSome_find?_iff, Store.find?_removed flows, hid, haction]
      by_cases h : id = id'
      · simp [h, subject, Operation.action]
      · simp [h, Ne.symm h, subject, Store.isSome_find?_iff]
  | @updated id change user clock w w' answer found hw revises flows versions =>
    replace haction : x.action = .updated := haction
    refine tells_of_same (Store.ids_placed flows) ?_ (by simp [haction]) (by simp [haction])
    exact hid ▸ hw ▸ Store.mem_ids found
  | @published id number notes user clock w v answer found hw valid hv active snapshot new
      flows versions =>
    replace haction : x.action = .published := haction
    refine tells_of_same (Store.ids_placed flows) ?_ (by simp [haction]) (by simp [haction])
    exact hid ▸ hw ▸ Store.mem_ids found
  | @activated id number user clock known flows versions =>
    replace haction : x.action = .versionActivated := haction
    refine tells_of_same ?_ ?_ (by simp [haction]) (by simp [haction])
    · rw [Store.ids, flows, Store.ids]
    · obtain ⟨v, hv, -⟩ := List.mem_map.1 known
      obtain ⟨hmem, hv⟩ := Store.mem_issued_iff.1 hv
      rw [hid]
      exact hv ▸ hsound.stored v hmem

/-! ## Calls -/

/-- **A call tells of its run**: of the session as it is stored, and of
its success as the response shows it. -/
structure Logs (e : Engine) (c : Call) (x : Audit.Entry) (t : Session) : Prop where
  /-- There is one entry more. -/
  entries : (e.execute c.request c.clock).2.audit.entries = e.audit.entries ++ [x]
  /-- The session of the response is stored. -/
  stored : (e.execute c.request c.clock).2.sessions.find?
    (e.execute c.request c.clock).1.sessionId = some t
  /-- The entry is about the flow of the call. -/
  workflowId : x.workflowId = c.request.workflowId
  /-- It names the session. -/
  sessionId : x.sessionId = some (e.execute c.request c.clock).1.sessionId
  /-- It tells of a success just if the response does. -/
  action : x.action =
    if (e.execute c.request c.clock).1.success then .executed else .executionFailed
  /-- It counts the steps of the session and shows its state. -/
  details : x.details = .object [
    ("nodesExecuted", .ofNat t.history.length), ("finalState", t.state.toJson)]

/-- **A call that runs a session tells of it.** -/
theorem logs_of_runs (hopen : e.sessions.Open) (hkeeps : e.audit.keeps = true)
    (h : e.Runs c e₀ g s) : ∃ x t, e.Logs c x t ∧
      Tells x e.flows.ids (e.execute c.request c.clock).2.flows.ids := by
  have hcontinues := Session.continues_run { graph := g, registry := e₀.registry, clock := c.clock }
    e₀.settings.maxSteps { s with input := c.request.input } e₀.network
  have hflow : (e₀.runOf g s c e₀.network).session.workflowId = c.request.workflowId :=
    hcontinues.workflowId.trans h.workflowId_eq
  have hshown := (shows_serve e₀ g s c).sessionId
  have hflows := (kept_execute e c).flows
  rw [execute_of_runs h] at hflows
  rw [← h.sessions_eq] at hopen
  rw [← h.audit_eq] at hkeeps
  refine ⟨runEntry (e₀.runOf g s c e₀.network).session (e₀.serve g s c).1.success c.clock,
    (e₀.runOf g s c e₀.network).session, ⟨?_, ?_, hflow, ?_, ?_, rfl⟩, ?_⟩
  · rw [execute_of_runs h, audit_serve, Audit.Log.entries_record hkeeps, h.audit_eq]
  · rw [execute_of_runs h, hshown, find?_serve_of_pass (hopen _), if_pos rfl]
  · rw [execute_of_runs h, hshown]
    rfl
  · rw [execute_of_runs h]
    rfl
  · rw [execute_of_runs h, hflows]
    have hstored : c.request.workflowId ∈ e.flows.ids := by
      have hfound := Option.isSome_of_eq_some h.graph_eq
      rw [Option.isSome_map, h.workflowId_eq] at hfound
      exact Store.isSome_find?_iff.1 hfound
    refine tells_of_same rfl (hflow.symm ▸ hstored :) ?_ ?_
    all_goals
      rw [runEntry]
      split <;> simp

/-! ## The main statement -/

/-- **What is so after any events** from empty stores on. -/
structure Journalled (e : Engine) : Prop where
  /-- No session is refused. -/
  sessions : e.sessions.Open
  /-- The log keeps what is recorded. -/
  keeps : e.audit.keeps = true
  /-- The log tells the truth. -/
  truthful : Truthful e.flows.ids e.audit.entries

theorem journalled_perform (hopen : e.flows.Open) (hsound : e.flows.Sound) (h : e.Journalled)
    (op : Operation) : (e.perform op).Journalled := by
  have haudit := audit_perform e op
  refine ⟨(sessions_perform e op).symm ▸ h.sessions, ?_, ?_⟩
  · rw [haudit]
    cases e.noteOf op with
    | none => exact h.keeps
    | some x => exact (Audit.Log.keeps_record ..).trans h.keeps
  · cases hnote : e.noteOf op with
    | none =>
      have hfails : e.does op = false := by rw [← isSome_noteOf, hnote]; rfl
      obtain ⟨-, hsame⟩ | ⟨hdoes, -⟩ := (performs hopen hsound op).records
      · rw [audit_perform_of_fails hfails, Store.ids, hsame.flows]
        exact h.truthful
      · exact absurd (hfails.symm.trans hdoes) Bool.false_ne_true
    | some x =>
      rw [haudit, hnote, Option.elim_some, Audit.Log.entries_record h.keeps]
      exact h.truthful.concat (tells_perform hopen hsound hnote)

theorem journalled_execute (h : e.Journalled) (c : Call) :
    (e.execute c.request c.clock).2.Journalled := by
  by_cases hruns : ∃ e₀ g s, e.Runs c e₀ g s
  · obtain ⟨e₀, g, s, hruns⟩ := hruns
    obtain ⟨x, t, hlogs, htells⟩ := logs_of_runs h.sessions h.keeps hruns
    refine ⟨?_, ?_, ?_⟩
    · rw [execute_of_runs hruns]
      exact open_serve (hruns.sessions_eq ▸ h.sessions) g s c
    · rw [execute_of_runs hruns, audit_serve, Audit.Log.keeps_record, hruns.audit_eq]
      exact h.keeps
    · rw [hlogs.entries]
      exact h.truthful.concat htells
  · rw [execute_of_not_runs hruns]
    exact h

/-- **From empty stores and an empty log on, whatever happens.** -/
theorem journalled_handleAll (hflows : e.flows = {}) (hsessions : e.sessions = {})
    (haudit : e.audit = {}) (events : List Event) : (e.handleAll events).Journalled := by
  induction events using List.reverseRecOn with
  | nil =>
    rw [handleAll_nil]
    refine ⟨?_, ?_, ?_⟩
    · rw [hsessions]
      exact fun _ => rfl
    · rw [haudit]
    · rw [haudit, hflows]
      exact Audit.truthful_nil
  | append_singleton events event ih =>
    rw [handleAll_concat]
    cases event with
    | operation op =>
      obtain ⟨hopen, hsound, -⟩ := wellKept_handleAll hflows events
      exact journalled_perform hopen hsound ih op
    | call c => exact journalled_execute ih c

/-- **The log tells the truth.** From empty stores and an empty log on,
whatever has happened: an operation that does what it is asked for makes
one entry, about its flow, and one that fails makes none. A call that
runs a session makes one, which agrees with the response and with the
session as it is stored then, and any other call makes none. A flow is
there just if the last of its makings and deletions in the log is a
making, and every other entry about it comes after a making that no
deletion has followed. -/
theorem log_tells_truth (start : Engine) (hflows : start.flows = {})
    (hsessions : start.sessions = {}) (haudit : start.audit = {}) (events : List Event) :
    let e := start.handleAll events
    (∀ op, (e.does op = true →
        ∃ x, (e.perform op).audit.entries = e.audit.entries ++ [x] ∧
          x.workflowId = e.subject op ∧ x.action = op.action) ∧
      (e.does op = false → (e.perform op).audit = e.audit)) ∧
    (∀ c, (∀ e₀ g s, e.Runs c e₀ g s → ∃ x t, e.Logs c x t) ∧
      ((¬ ∃ e₀ g s, e.Runs c e₀ g s) → (e.execute c.request c.clock).2.audit = e.audit)) ∧
    (∀ id, (e.flows.find? id).isSome = true ↔
      lastMark? id e.audit.entries = some .created) ∧
    ∀ before x, before ++ [x] <+: e.audit.entries →
      (lastMark? x.workflowId before = some .created ↔ x.action ≠ .created) := by
  intro e
  have hjournalled : e.Journalled := journalled_handleAll hflows hsessions haudit events
  refine ⟨fun op => ⟨fun hdoes => ?_, audit_perform_of_fails⟩,
    fun c => ⟨fun e₀ g s hruns => ?_, fun hruns => ?_⟩, fun id => ?_,
    hjournalled.truthful.windows⟩
  · obtain ⟨x, hx⟩ := Option.isSome_iff_exists.1 ((isSome_noteOf e op).trans hdoes)
    refine ⟨x, ?_, of_noteOf_eq_some hx⟩
    rw [audit_perform, hx, Option.elim_some, Audit.Log.entries_record hjournalled.keeps]
  · obtain ⟨x, t, hlogs, -⟩ := logs_of_runs hjournalled.sessions hjournalled.keeps hruns
    exact ⟨x, t, hlogs⟩
  · rw [execute_of_not_runs hruns]
  · exact Store.isSome_find?_iff.trans (hjournalled.truthful.stored id)

/-- An engine without flows. -/
def freshEngine : Engine where
  ids := .random 0

/-- A short flow is made. -/
def shortMade : Event :=
  .operation (.create { id := some .nil, name := "", source := shortText } "" default)

/-- The short flow is deleted. -/
def shortDeleted : Operation :=
  .delete .nil "" default

/-- The short flow is to be run. -/
def shortCall : Call where
  request := { workflowId := .nil }
  clock := default

/-- **A flow that was made can be run, and the log tells of both**; once it
is deleted a second time, that leaves no entry. -/
theorem short_log_tells_truth :
    let e := freshEngine.handleAll [shortMade]
    let e' := freshEngine.handleAll [shortMade, .operation shortDeleted]
    ((∃ x t, e.Logs shortCall x t) ∧ lastMark? .nil e.audit.entries = some .created) ∧
      (e'.flows.find? .nil).isSome = false ∧
      (e'.perform shortDeleted).audit = e'.audit := by
  obtain ⟨-, hcalls, hstored, -⟩ := log_tells_truth freshEngine rfl rfl rfl [shortMade]
  obtain ⟨hoperations, -, hstored', -⟩ :=
    log_tells_truth freshEngine rfl rfl rfl [shortMade, .operation shortDeleted]
  obtain ⟨p, hp⟩ : ∃ p, (freshEngine.handleAll [shortMade]).opening? shortCall.request = some p :=
    Option.isSome_iff_exists.1 (by decide +kernel)
  have hmade : ((freshEngine.handleAll [shortMade]).flows.find? .nil).isSome = true := by
    decide +kernel
  have hdeleted : lastMark? .nil (freshEngine.handleAll
      [shortMade, .operation shortDeleted]).audit.entries ≠ some .created := by decide +kernel
  have hfails : (freshEngine.handleAll [shortMade, .operation shortDeleted]).does shortDeleted =
      false := by decide +kernel
  refine ⟨⟨(hcalls shortCall).1 _ _ _ (.opens hp), (hstored .nil).1 hmade⟩, ?_, ?_⟩
  · exact Bool.eq_false_iff.2 fun h => hdeleted ((hstored' .nil).1 h)
  · exact (hoperations shortDeleted).2 hfails

end Engine

end Flowchart
