import Flowchart.Proofs.Json.Parts
import Flowchart.Proofs.Json.Reading
import Flowchart.Proofs.Session.Keyed

/-!
# Saved sessions

A session is read back from the text that it is saved as, unless a value
in it is nested too deeply (`ofSaved?_saved_eq`). The reader counts every
level from the session on, so it has one level less for a pending answer,
two levels less for the state, and four levels less for what steps put
out, than for a document alone (`depth_toJson_le_iff`). Where a point in
time is not read as it is written, the session comes back with another
one there or not at all (`rereads_of_ofSaved?_saved`). Numbers may change as
well, but the texts that steps have put out do not
(`texts_of_ofSaved?_saved`).
-/

namespace Flowchart

/-- A record is as deep as its fields that are there, and one level more. -/
theorem Json.depth_ofFields_le_iff {fields : List (String × Option Json)} {levels : Nat} :
    (ofFields fields).depth ≤ levels + 1 ↔ ∀ f ∈ fields, ∀ v ∈ f.2, v.depth ≤ levels := by
  rw [ofFields, depth, Nat.add_le_add_iff_right, depthEntries_le_iff]
  constructor
  · intro h f hf v hv
    exact h (f.1, v) (List.mem_filterMap.2 ⟨f, hf, Option.map_eq_some_iff.2 ⟨v, hv, rfl⟩⟩)
  · intro h e he
    obtain ⟨f, hf, hfe⟩ := List.mem_filterMap.1 he
    obtain ⟨v, hv, rfl⟩ := Option.map_eq_some_iff.1 hfe
    exact h f hf v hv

theorem StateMap.depth_toJson_le_iff {m : StateMap} {levels : Nat} :
    m.toJson.depth ≤ levels + 1 ↔ ∀ v ∈ m.entries, v.2.depth ≤ levels := by
  rw [toJson, Json.depth, Nat.add_le_add_iff_right, Json.depthEntries_le_iff]

namespace Session

open Json.Decoder (Fails Reads Takes failsField_of fails_list fails_ofText fails_record
  readsField_of reads_bool reads_document reads_instant reads_list reads_record reads_state
  reads_text reads_uuid takes_list takes_record takes_state)

variable {s t : Session} {e : Entry}

/-! ## Reading -/

theorem Status.reads_decoder (status : Status) :
    Reads decoder (.string status.text) status := by
  intro scope
  rw [Json.depth, Json.Decoder.allowed_zero]
  cases status <;> rfl

/-- A text that may be missing is read from its document. -/
theorem rel_text (text? : Option String) :
    Option.Rel (fun j a => Reads .text j a ∧ j ≠ .null) (text?.map .string) text? := by
  cases text? with
  | none => exact .none
  | some text => exact .some ⟨reads_text text, by simp⟩

/-- **A step that is read again**: its time is what its text says. -/
structure Entry.Rereads (e e' : Entry) : Prop where
  /-- All but the time is the same. -/
  others : e' = { e with executedAt := e'.executedAt }
  /-- The time is read. -/
  executed : Instant.ofText? e.executedAt.toText = some e'.executedAt

/-- **A session that is read again**: its points in time are what their
texts say. -/
structure Rereads (s t : Session) : Prop where
  /-- All but the points in time is the same. -/
  others : t = { s with
    history := t.history, createdAt := t.createdAt, updatedAt := t.updatedAt }
  /-- The start is read. -/
  created : Instant.ofText? s.createdAt.toText = some t.createdAt
  /-- The last change is read. -/
  updated : Instant.ofText? s.updatedAt.toText = some t.updatedAt
  /-- The steps are read. -/
  history : List.Forall₂ Entry.Rereads s.history t.history

/-- **A step is read from its document.** -/
theorem Entry.Rereads.reads_decoder {e' : Entry} (h : e.Rereads e') (houtput : e.output.Keyed) :
    Reads decoder e.toJson e' := by
  obtain ⟨hothers, htime⟩ := h
  rw [hothers]
  obtain ⟨nodeId, nodeKind, executedAt, success, error, output⟩ := e
  refine reads_record
    (.some rfl rfl (readsField_of (reads_text nodeId)).need <|
    .some rfl rfl (readsField_of (reads_text nodeKind)).need <|
    .some rfl rfl (readsField_of (reads_instant htime)).need <|
    .some rfl rfl (readsField_of (reads_bool success)).need <|
    .optional rfl rfl (rel_text error)
      (.some rfl rfl (readsField_of (reads_state houtput)) (.nil rfl)) rfl) ?_
  cases error <;> rfl

/-- **A session is read from its document**, unless a null stands for its
answer. -/
theorem Rereads.reads_decoder (h : s.Rereads t) (hkeyed : s.Keyed) (hinput : s.input ≠ some .null) :
    Reads decoder s.toJson t := by
  obtain ⟨hothers, hcreated, hupdated, hhistory⟩ := h
  have hsteps : Reads (.list Entry.decoder) (.array (s.history.map (·.toJson))) t.history := by
    refine reads_list (List.forall₂_map_left_iff.2 ?_)
    have hboth := (List.forall₂_and_left s.history t.history).2 ⟨hkeyed.history, hhistory⟩
    exact hboth.imp fun e e' he => he.2.reads_decoder he.1
  have hread : Option.Rel (fun j a => Reads .document j a ∧ j ≠ .null) s.input s.input := by
    cases hs : s.input with
    | none => exact .none
    | some v =>
      exact .some ⟨reads_document (hkeyed.input v hs), fun hnull => hinput (hnull ▸ hs)⟩
  have hstate := hkeyed.state
  rw [hothers]
  obtain ⟨id, workflowId, userId, current, status, state, history, input, prompt, createdAt,
    updatedAt⟩ := s
  refine reads_record
    (.some rfl rfl (readsField_of (reads_text id)).need <|
    .some rfl rfl (readsField_of (reads_uuid workflowId)).need <|
    .some rfl rfl (readsField_of (reads_text userId)).need <|
    .some rfl rfl (readsField_of (reads_text current)).need <|
    .some rfl rfl (readsField_of status.reads_decoder) <|
    .some rfl rfl (readsField_of (reads_state hstate)) <|
    .some rfl rfl (readsField_of hsteps) <|
    .optional rfl rfl hread (.optional rfl rfl (rel_text prompt)
      (.some rfl rfl (readsField_of (reads_instant hcreated)).need <|
      .some rfl rfl (readsField_of (reads_instant hupdated)).need (.nil rfl)) rfl) rfl) ?_
  cases input <;> cases prompt <;> rfl

/-- The points in time that a session names. -/
def times (s : Session) : List Instant :=
  s.createdAt :: s.updatedAt :: s.history.map (·.executedAt)

/-- **Every point in time is read from its text.** -/
def Timely (s : Session) : Prop :=
  ∀ t ∈ s.times, Instant.ofText? t.toText = some t

instance (s : Session) : Decidable s.Timely :=
  inferInstanceAs (Decidable (∀ t ∈ s.times, _))

/-- Then the session is read again as it is. -/
theorem Timely.rereads (h : s.Timely) : s.Rereads s := by
  obtain ⟨hcreated, htimes⟩ := List.forall_mem_cons.1 h
  obtain ⟨hupdated, hexecuted⟩ := List.forall_mem_cons.1 htimes
  refine ⟨rfl, hcreated, hupdated, List.forall₂_same.2 fun e he => ⟨rfl, ?_⟩⟩
  exact hexecuted _ (List.mem_map_of_mem he)

/-! ## Points in time that are not read -/

/-- A step whose time is not read is not read. -/
theorem Entry.fails_decoder (h : Instant.ofText? e.executedAt.toText = none) :
    Fails decoder e.toJson := by
  have hfails : Fails .instant (.ofInstant e.executedAt) := fails_ofText h
  exact fails_record (List.mem_of_getElem? (i := 2) rfl) rfl (failsField_of hfails).need

/-- Steps that can all be read are, or one of them is not. -/
theorem Entry.rereads_or_fails (es : List Entry) :
    (∃ es', List.Forall₂ Entry.Rereads es es') ∨ ∃ e ∈ es, Fails decoder e.toJson := by
  induction es with
  | nil => exact .inl ⟨[], .nil⟩
  | cons e es ih =>
    cases htime : Instant.ofText? e.executedAt.toText with
    | none => exact .inr ⟨e, List.mem_cons_self, e.fails_decoder htime⟩
    | some now =>
      obtain ⟨es', hes'⟩ | ⟨e', he', hfails⟩ := ih
      · exact .inl ⟨{ e with executedAt := now } :: es', .cons ⟨rfl, htime⟩ hes'⟩
      · exact .inr ⟨e', List.mem_cons_of_mem e he', hfails⟩

/-- **A session is read again or not at all**: it is not if one of its
points in time is not. -/
theorem rereads_or_fails (s : Session) : (∃ t, s.Rereads t) ∨ Fails decoder s.toJson := by
  cases hcreated : Instant.ofText? s.createdAt.toText with
  | none =>
    have hfails : Fails .instant (.ofInstant s.createdAt) := fails_ofText hcreated
    exact .inr (fails_record (List.mem_of_getElem? (i := 9) rfl) rfl (failsField_of hfails).need)
  | some created =>
    cases hupdated : Instant.ofText? s.updatedAt.toText with
    | none =>
      have hfails : Fails .instant (.ofInstant s.updatedAt) := fails_ofText hupdated
      exact .inr (fails_record (List.mem_of_getElem? (i := 10) rfl) rfl (failsField_of hfails).need)
    | some updated =>
      obtain ⟨history, hhistory⟩ | ⟨e, he, hfails⟩ := Entry.rereads_or_fails s.history
      · refine .inl ⟨{ s with history, createdAt := created, updatedAt := updated }, ?_⟩
        exact ⟨rfl, hcreated, hupdated, hhistory⟩
      · have hsteps := fails_list (List.mem_map_of_mem he) hfails
        exact .inr (fails_record (List.mem_of_getElem? (i := 6) rfl) rfl (failsField_of hsteps))

/-! ## Texts that are kept -/

/-- **The step has put out the same texts** as the other one. -/
def Entry.SameTexts (e e' : Entry) : Prop :=
  ∀ key, (e'.output.find? key).bind Json.text? = (e.output.find? key).bind Json.text?

/-- A step keeps the texts that it has put out, whatever its numbers are
read as. -/
theorem Entry.takes_decoder (e : Entry) : Takes decoder e.toJson e.SameTexts := by
  have hother {α : Type} {name : String} {d : Json.Decoder α} {put : Entry → α → Entry}
      (h : ∀ e a, (put e a).output = e.output) :
      (Json.Decoder.Field.of name d put).Spares Entry.output :=
    Json.Decoder.Field.spares_of h
  refine takes_record default Entry.output
    (List.mem_of_getElem? (i := 5) rfl) rfl (fun _ _ => rfl) ?_ (takes_state e.output)
  simp only [List.forall_mem_cons]
  exact ⟨fun _ => .need (hother fun _ _ => rfl), fun _ => .need (hother fun _ _ => rfl),
    fun _ => .need (hother fun _ _ => rfl), fun _ => .need (hother fun _ _ => rfl),
    fun _ => hother fun _ _ => rfl, fun hne => absurd rfl hne, nofun⟩

/-- **A session keeps the texts of its steps.** -/
theorem takes_decoder (s : Session) : Takes decoder s.toJson fun t =>
    List.Forall₂ Entry.SameTexts s.history t.history := by
  have hother {α : Type} {name : String} {d : Json.Decoder α} {put : Session → α → Session}
      (h : ∀ s a, (put s a).history = s.history) :
      (Json.Decoder.Field.of name d put).Spares Session.history :=
    Json.Decoder.Field.spares_of h
  have hsteps : Takes (.list Entry.decoder) (.array (s.history.map (·.toJson)))
      (List.Forall₂ Entry.SameTexts s.history) :=
    takes_list fun e _ => e.takes_decoder
  refine takes_record _ Session.history
    (List.mem_of_getElem? (i := 6) rfl) rfl (fun _ _ => rfl) ?_ hsteps
  simp only [List.forall_mem_cons]
  exact ⟨fun _ => .need (hother fun _ _ => rfl), fun _ => .need (hother fun _ _ => rfl),
    fun _ => .need (hother fun _ _ => rfl), fun _ => .need (hother fun _ _ => rfl),
    fun _ => hother fun _ _ => rfl, fun _ => hother fun _ _ => rfl,
    fun hne => absurd rfl hne, fun _ => hother fun _ _ => rfl, fun _ => hother fun _ _ => rfl,
    fun _ => .need (hother fun _ _ => rfl), fun _ => .need (hother fun _ _ => rfl), nofun⟩

/-! ## Depth -/

theorem Entry.depth_toJson_le_iff (e : Entry) {levels : Nat} :
    e.toJson.depth ≤ levels + 2 ↔ ∀ v ∈ e.output.entries, v.2.depth ≤ levels := by
  rw [toJson, Json.depth_ofFields_le_iff, ← StateMap.depth_toJson_le_iff]
  simp [Json.ofInstant, Json.depth]

/-- **How deeply the values may be nested** in a session: its answer
stands one level inside it, those of the state stand two levels inside
it, and those that a step has put out stand four levels inside it. -/
theorem depth_toJson_le_iff {levels : Nat} :
    s.toJson.depth ≤ levels + 4 ↔ (∀ v ∈ s.state.entries, v.2.depth ≤ levels + 2) ∧
      (∀ e ∈ s.history, ∀ v ∈ e.output.entries, v.2.depth ≤ levels) ∧
      ∀ v ∈ s.input, v.depth ≤ levels + 3 := by
  have hhistory : (Json.array (s.history.map (·.toJson))).depth ≤ levels + 3 ↔
      ∀ e ∈ s.history, ∀ v ∈ e.output.entries, v.2.depth ≤ levels := by
    rw [Json.depth, Nat.add_le_add_iff_right, Json.depthItems_le_iff, List.forall_mem_map]
    exact forall₂_congr fun e _ => e.depth_toJson_le_iff
  rw [← hhistory, ← StateMap.depth_toJson_le_iff, toJson, Json.depth_ofFields_le_iff]
  simp [Json.ofInstant, Json.ofUuid, Json.depth]

/-- **The session is shallow**: each of its values is nested no more
deeply than the reader allows where it stands. -/
def Shallow (s : Session) : Prop :=
  (∀ v ∈ s.state.entries, v.2.depth ≤ Json.depthLimit - 2) ∧
    ∀ e ∈ s.history, ∀ v ∈ e.output.entries, v.2.depth ≤ Json.depthLimit - 4

instance (s : Session) : Decidable s.Shallow :=
  inferInstanceAs (Decidable (_ ∧ _))

theorem depth_le_depthLimit_iff (hinput : s.input = none) :
    s.toJson.depth ≤ Json.depthLimit ↔ s.Shallow := by
  have hlevels : s.toJson.depth ≤ Json.depthLimit ↔ _ := depth_toJson_le_iff
  rw [hlevels, hinput]
  simp [Shallow, Json.depthLimit]

/-! ## Saving -/

/-- The text of a session is read as its document is. -/
theorem ofSaved?_saved_eq_reread (s : Session) :
    ofSaved? s.saved = decoder {} (Json.Raw.reread s.toJson) := by
  rw [ofSaved?, saved, Json.Decoder.ofString, Json.ofText?_pretty]

/-- **What a session has said is not lost** when it is saved and read
again. -/
theorem texts_of_ofSaved?_saved (h : ofSaved? s.saved = .ok t) :
    List.Forall₂ Entry.SameTexts s.history t.history :=
  s.takes_decoder {} t ((ofSaved?_saved_eq_reread s).symm.trans h)

/-- **What comes of a saved session**: itself, if its document is within
the limit of the reader. -/
theorem ofSaved?_saved_eq (hkeyed : s.Keyed) (hinput : s.input ≠ some .null) (htimes : s.Timely)
    (hexact : s.toJson.Exact) :
    ofSaved? s.saved =
      if s.toJson.depth ≤ Json.depthLimit then .ok s else .error .unreadable := by
  rw [ofSaved?, saved, Json.Decoder.ofString_pretty _ hexact]
  exact htimes.rereads.reads_decoder hkeyed hinput {}

/-- **Whatever comes of a saved session** is the session, but for points
in time that are not read as they are written. -/
theorem rereads_of_ofSaved?_saved (hkeyed : s.Keyed) (hinput : s.input ≠ some .null)
    (hexact : s.toJson.Exact) (h : ofSaved? s.saved = .ok t) : s.Rereads t := by
  rw [ofSaved?, saved, Json.Decoder.ofString_pretty _ hexact] at h
  obtain ⟨t', ht'⟩ | hfails := s.rereads_or_fails
  · rw [ht'.reads_decoder hkeyed hinput {}, Json.Decoder.allowed] at h
    split at h
    · obtain rfl := Except.ok.inj h
      exact ht'
    · cases h
  · obtain ⟨e, he⟩ := hfails {}
    cases he.symm.trans h

/-- **A session without an answer** comes back if it is shallow. -/
theorem ofSaved?_saved (hkeyed : s.Keyed) (hinput : s.input = none) (htimes : s.Timely)
    (hexact : s.toJson.Exact) :
    ofSaved? s.saved = if s.Shallow then .ok s else .error .unreadable := by
  have hnull : s.input ≠ some .null := by rw [hinput]; nofun
  rw [ofSaved?_saved_eq hkeyed hnull htimes hexact]
  exact if_congr (depth_le_depthLimit_iff hinput) rfl rfl

end Session

end Flowchart
