import Flowchart.Proofs.Files
import Flowchart.Proofs.Json.Given
import Flowchart.Proofs.Session.Saved

/-!
# Sessions that were read

A session is read from many texts: its fields stand in any order or are
listed without their names, some are missing or null, others are unknown.
Whatever the text was, the session that is read fits into the levels that
the reader has (`gives_decoder`), and so the text that it is saved as is
within the limit too. Saving and reading it changes nothing any more
(`loading_normalises`).
-/

namespace Flowchart

namespace Session

open Json.Decoder (Gives gives_any gives_state gives_option_document gives_record)

variable {s : Session} {text : String} {levels : Nat}

/-! ## What is read fits -/

/-- **What a step has put out fits** into so many levels. -/
def Entry.Fits (levels : Nat) (e : Entry) : Prop :=
  ∀ v ∈ e.output.entries, v.2.Fits (levels - 1)

/-- **The documents of the session fit** into so many levels, each where
it stands, and its answer is no null. -/
structure Fits (levels : Nat) (s : Session) : Prop where
  /-- The state stands one level further in. -/
  state : ∀ v ∈ s.state.entries, v.2.Fits (levels - 1)
  /-- The steps stand in a sequence and are records themselves. -/
  history : ∀ e ∈ s.history, e.Fits (levels - 1 - 1)
  /-- The answer is a field. -/
  input : ∀ v ∈ s.input, v ≠ .null ∧ v.Fits levels

/-- **A step that is read fits.** -/
theorem Entry.gives_decoder : Gives decoder fun levels e => e.Fits (levels - 1) := by
  have hany {α : Type} (d : Json.Decoder α) {name : String} {put : Entry → α → Entry}
      (hput : ∀ e a, (put e a).output = e.output) :
      (Json.Decoder.Field.of name d put).Keeps Entry.Fits :=
    (gives_any d).keeps fun levels e a he _ => by rw [Entry.Fits, hput]; exact he
  refine gives_record ?_ fun _ _ hv => absurd hv List.not_mem_nil
  simp only [List.forall_mem_cons]
  refine ⟨.need (hany .text fun _ _ => rfl), .need (hany .text fun _ _ => rfl),
    .need (hany .instant fun _ _ => rfl), .need (hany .bool fun _ _ => rfl),
    hany (.option .text) fun _ _ => rfl, ?_, nofun⟩
  exact gives_state.keeps fun levels e output _ houtput => houtput

/-- **A session that is read fits**, however it was written. -/
theorem gives_decoder : Gives decoder fun levels s => s.Fits (levels - 1) := by
  have hany {α : Type} (d : Json.Decoder α) {name : String} {put : Session → α → Session}
      (hput : ∀ s a, (put s a).state = s.state ∧ (put s a).history = s.history ∧
        (put s a).input = s.input) :
      (Json.Decoder.Field.of name d put).Keeps Session.Fits :=
    (gives_any d).keeps fun levels s a hs _ => by
      obtain ⟨hstate, hhistory, hinput⟩ := hput s a
      exact ⟨hstate ▸ hs.state, hhistory ▸ hs.history, hinput ▸ hs.input⟩
  refine gives_record ?_ fun _ => ⟨fun _ hv => absurd hv List.not_mem_nil,
    fun _ he => absurd he List.not_mem_nil, nofun⟩
  simp only [List.forall_mem_cons]
  refine ⟨.need (hany .text fun _ _ => ⟨rfl, rfl, rfl⟩),
    .need (hany .uuid fun _ _ => ⟨rfl, rfl, rfl⟩),
    .need (hany .text fun _ _ => ⟨rfl, rfl, rfl⟩),
    .need (hany .text fun _ _ => ⟨rfl, rfl, rfl⟩),
    hany Status.decoder fun _ _ => ⟨rfl, rfl, rfl⟩, ?state, ?history, ?input,
    hany (.option .text) fun _ _ => ⟨rfl, rfl, rfl⟩,
    .need (hany .instant fun _ _ => ⟨rfl, rfl, rfl⟩),
    .need (hany .instant fun _ _ => ⟨rfl, rfl, rfl⟩), nofun⟩
  case state => exact gives_state.keeps fun _ s state hs hstate => ⟨hstate, hs.history, hs.input⟩
  case history =>
    exact Entry.gives_decoder.list.keeps fun _ s history hs hhistory =>
      ⟨hs.state, hhistory, hs.input⟩
  case input =>
    exact gives_option_document.keeps fun _ s input hs hinput => ⟨hs.state, hs.history, hinput⟩

theorem Fits.keyed (h : s.Fits levels) : s.Keyed :=
  ⟨fun v hv => (h.state v hv).keyed, fun e he v hv => (h.history e he v hv).keyed,
    fun v hv => (h.input v hv).2.keyed⟩

/-- A session that fits is saved within one level more. -/
theorem Fits.depth_le (h : s.Fits (levels + 3)) : s.toJson.depth ≤ levels + 4 :=
  depth_toJson_le_iff.2 ⟨fun v hv => (h.state v hv).depth,
    fun e he v hv => (h.history e he v hv).depth, fun v hv => (h.input v hv).2.depth⟩

/-- **What is read of a text fits** into all but one of the levels. -/
theorem fits_of_ofSaved? (h : ofSaved? text = .ok s) : s.Fits (Json.depthLimit - 1) := by
  unfold ofSaved? Json.Decoder.ofString at h
  split at h
  · next raw _ => exact gives_decoder _ raw s h
  · cases h

/-! ## Saving what was read -/

/-- **Reading normalises a session once and for all.** Whatever the text
from which it was read, the session is saved as a text that is read again
and gives the same session, which is then saved as the very same text;
and so is the file that it was written to. Its numbers and its points in
time are to be read as they are written. -/
theorem loading_normalises (h : ofSaved? text = .ok s) (hexact : s.toJson.Exact)
    (htimes : s.Timely) :
    (∃ t, ofSaved? s.saved = .ok t ∧ t = s ∧ t.saved = s.saved) ∧
      ∀ (files : Files) (path : String), (files.write path s.saved).1 = .ok () →
        ∃ written, (files.write path s.saved).2.read path = .ok written ∧
          ∃ t, ofSaved? written = .ok t ∧ t = s ∧ t.saved = written := by
  have hfits := fits_of_ofSaved? h
  have hnull : s.input ≠ some .null := fun hs => (hfits.input .null hs).1 rfl
  have hdepth : s.toJson.depth ≤ Json.depthLimit := hfits.depth_le
  have hread : ofSaved? s.saved = .ok s := by
    rw [ofSaved?_saved_eq hfits.keyed hnull htimes hexact, if_pos hdepth]
  refine ⟨⟨s, hread, rfl, rfl⟩, fun files path hwritten => ?_⟩
  exact ⟨s.saved, Files.read_write hwritten, s, hread, rfl, rfl⟩

/-- A session in a form that no session is saved in: its fields are out
of order, one is unknown and one is null, its step is listed by position,
its points in time have offsets, and a variable is there twice. -/
def oddText : String :=
  "\x7b\"updatedAt\":\"2024-05-01T12:00:00.250+02:00\",\"note\":[1,\x7b\x7d],\"pendingPrompt\":null,
  \"createdAt\":\"2024-05-01 09:59:59Z\",\"currentNodeId\":\"q\",\"userId\":\"u\",
  \"workflowId\":\"urn:uuid:67e55044-10b1-426f-9247-bb680e5fe0c8\",\"sessionId\":\"s\",
  \"userInput\":\x7b\"b\":1,\"a\":[true],\"b\":2\x7d,
  \"stateVariables\":\x7b\"y\":1,\"x\":2.50,\"y\":3\x7d,
  \"executionHistory\":[[\"s\",\"StartNode\",\"2024-05-01T10:00:00Z\",true]]\x7d"

/-- **The session in the odd form** is the same after saving and reading,
though its text is not. -/
theorem oddText_normalises : ∃ s, ofSaved? oddText = .ok s ∧ s.history.length = 1 ∧
    s.input = some (.object [("b", .ofNat 2), ("a", .array [.bool true])]) ∧
    s.saved ≠ oddText ∧ ∃ t, ofSaved? s.saved = .ok t ∧ t = s ∧ t.saved = s.saved := by
  have hparts : (ofSaved? oddText).toOption.map (fun s => (decide s.toJson.Exact,
      decide s.Timely, s.history.length, s.input, decide (s.saved = oddText))) =
        some (true, true, 1, some (.object [("b", .ofNat 2), ("a", .array [.bool true])]),
          false) := by
    rw [ofSaved?, oddText, Json.Decoder.ofString_ofList]
    decide +kernel
  obtain ⟨s, hs, hparts⟩ := Option.map_eq_some_iff.1 hparts
  simp only [Prod.mk.injEq, decide_eq_true_eq, decide_eq_false_iff_not] at hparts
  obtain ⟨hexact, htimes, hhistory, hinput, hsaved⟩ := hparts
  have hread := toOption_eq_some_iff.1 hs
  exact ⟨s, hread, hhistory, hinput, hsaved, (loading_normalises hread hexact htimes).1⟩

end Session

end Flowchart
