import Flowchart.Proofs.Json.Reread
import Flowchart.Proofs.Step.BuiltIn
import Flowchart.Proofs.Success

/-!
# Steps make proper documents

In no document that a built-in executor makes has an object a key twice,
if none has in the configuration, the state and the answer
(`keepsKeys_builtIn`). What steps take from outside is read from texts,
and so are configurations.
-/

namespace Flowchart

/-- **No object in the state has a key twice.** -/
def StateMap.Keyed (m : StateMap) : Prop :=
  ∀ e ∈ m.entries, e.2.Keyed

namespace StateMap

variable {m updates : StateMap} {es : Json.Entries} {key : String} {v : Json}

theorem keyed_empty : Keyed .empty :=
  fun _ he => absurd he List.not_mem_nil

theorem Keyed.insert (h : m.Keyed) (hv : v.Keyed) (key : String) : Keyed (m.insert key v) := by
  intro e he
  rcases SortedMap.mem_insertIn he with rfl | he
  · exact hv
  · exact h e he

/-- Entries that are put in one after another. -/
theorem Keyed.foldl_insert (h : m.Keyed) (hes : ∀ e ∈ es, e.2.Keyed) :
    Keyed (es.foldl (fun m e => m.insert e.1 e.2) m) :=
  fun e he => (SortedMap.mem_of_mem_foldl_insert he).elim (h e) (hes e)

theorem keyed_ofEntries (hes : ∀ e ∈ es, e.2.Keyed) : Keyed (ofEntries es) :=
  keyed_empty.foldl_insert hes

theorem Keyed.overlay (h : m.Keyed) (hupdates : updates.Keyed) : Keyed (m.overlay updates) :=
  h.foldl_insert hupdates

theorem Keyed.find? (h : m.Keyed) (hv : m.find? key = some v) : v.Keyed := by
  have hmem : ∀ es : List (String × Json), SortedMap.findIn? key es = some v →
      ∃ e ∈ es, e.2 = v := by
    intro es hfound
    induction es with
    | nil => cases hfound
    | cons e es ih =>
      rw [SortedMap.findIn?] at hfound
      split at hfound
      · exact ⟨e, List.mem_cons_self, Option.some.inj hfound⟩
      · obtain ⟨f, hf, hfv⟩ := ih hfound
        exact ⟨f, List.mem_cons_of_mem e hf, hfv⟩
  obtain ⟨e, he, rfl⟩ := hmem m.entries hv
  exact h e he

end StateMap

/-! ## Configurations -/

namespace NodeConfig

variable {c : NodeConfig} {key : String} {es : Json.Entries}

/-- **No object in the configuration has a key twice.** -/
def Keyed (c : NodeConfig) : Prop :=
  (Json.object c.entries).Keyed

theorem keyed_empty : Keyed {} :=
  ⟨List.nodup_nil, trivial⟩

/-- **A configuration that was read has no key twice.** -/
theorem keyed_of_ofText? {text : String} (h : ofText? text = .ok c) : c.Keyed := by
  unfold ofText? at h
  split at h
  · obtain rfl := Except.ok.inj h
    exact keyed_empty
  · split at h
    · next j hj =>
      have hkeyed := Json.keyed_of_ofText? hj
      unfold ofJson? at h
      split at h
      · obtain rfl := Except.ok.inj h
        exact hkeyed
      · obtain rfl := Except.ok.inj h
        exact keyed_empty
      · cases h
    · cases h

/-- An object under a key has no key twice. -/
theorem Keyed.object? (h : c.Keyed) (hes : c.object? key = .ok (some es)) :
    (Json.object es).Keyed := by
  unfold NodeConfig.object? at hes
  split at hes
  · cases hes
  · next entries hget =>
    obtain rfl := Option.some.inj (Except.ok.inj hes)
    obtain ⟨hfound, -⟩ := Option.filter_eq_some_iff.1 hget
    exact Json.keyedEntries_iff.1 h.2 _ (Json.Entries.mem_of_find?_eq_some hfound)
  · cases hes

/-- A configuration under a key has no key twice. -/
theorem Keyed.section? {c' : NodeConfig} (h : c.Keyed) (hc : c.section? key = .ok c') :
    c'.Keyed := by
  obtain ⟨entries?, hentries, rfl⟩ := map_eq_ok_iff.1 hc
  cases entries? with
  | none => exact keyed_empty
  | some entries => exact h.object? hentries

end NodeConfig

namespace Step

variable {input : Input} {r : Result} {n : Web.Network} {x : Executor} {kind : String}

/-- **No object that a step is made of has a key twice.** -/
structure Input.Keyed (input : Input) : Prop where
  /-- None in the configuration has. -/
  config : input.config.Keyed
  /-- None in the state has. -/
  state : input.state.Keyed
  /-- None in the answer has. -/
  answer : ∀ v ∈ input.answer, v.Keyed

/-- **No object that a step makes has a key twice.** -/
structure Result.Keyed (r : Result) : Prop where
  /-- None that it puts out has. -/
  output : r.output.Keyed
  /-- None that it changes the state to has. -/
  updates : r.updates.Keyed

/-- **The executor makes documents without repeated keys** of such
documents. -/
def Executor.KeepsKeys (x : Executor) : Prop :=
  ∀ input n r, input.Keyed → (x.run input n).1 = .ok r → r.Keyed

/-- A step that fails makes no document. -/
theorem keyed_failed (reason : String) : (Result.failed reason).Keyed :=
  ⟨StateMap.keyed_empty, StateMap.keyed_empty⟩

theorem Executor.KeepsKeys.execute (h : x.KeepsKeys) (hinput : input.Keyed) (n : Web.Network) :
    (x.execute input n).1.Keyed := by
  unfold Executor.execute Executor.conclude
  simp only
  cases hr : (x.run input n).1 with
  | ok r => exact h input n r hinput hr
  | error e => exact keyed_failed _

/-! ## The built-in executors -/

theorem keepsKeys_passThrough : passThrough.KeepsKeys := by
  rintro input n r - ⟨⟩
  exact ⟨StateMap.keyed_empty, StateMap.keyed_empty⟩

theorem keepsKeys_message : message.KeepsKeys := by
  intro input n r _ h
  obtain ⟨text, -, h⟩ := bind_eq_ok_iff.1 h
  obtain rfl := Except.ok.inj h
  exact ⟨StateMap.keyed_ofEntries (by simp [Json.Keyed]), StateMap.keyed_empty⟩

theorem keepsKeys_question : question.KeepsKeys := by
  intro input n r _ h
  obtain ⟨text, -, h⟩ := bind_eq_ok_iff.1 h
  obtain ⟨key, -, h⟩ := bind_eq_ok_iff.1 h
  obtain ⟨rules, -, h⟩ := bind_eq_ok_iff.1 h
  split at h
  · obtain rfl := Except.ok.inj h
    exact ⟨StateMap.keyed_empty, StateMap.keyed_empty⟩
  · obtain rfl := Except.ok.inj h
    exact ⟨StateMap.keyed_empty, StateMap.keyed_empty⟩
  · obtain ⟨reason?, -, h⟩ := bind_eq_ok_iff.1 h
    cases reason? with
    | some reason =>
      obtain rfl := Except.ok.inj h
      exact ⟨StateMap.keyed_empty, StateMap.keyed_empty⟩
    | none =>
      obtain rfl := Except.ok.inj h
      exact ⟨StateMap.keyed_ofEntries (by simp [Json.Keyed]),
        StateMap.keyed_ofEntries (by simp [Json.Keyed])⟩

/-- What a request is answered with is read from a text. -/
theorem keyed_content (text : String) : (Call.content text).Keyed := by
  unfold Call.content
  cases h : Json.ofText? text with
  | none => trivial
  | some j => exact Json.keyed_of_ofText? h

theorem keepsKeys_call : call.KeepsKeys := by
  intro input n r _ h
  unfold call Call.run at h
  simp only at h
  split at h
  · cases h
  · split at h
    · next a _ _ =>
      obtain rfl := Except.ok.inj h
      have hcontent := keyed_content a.text
      exact ⟨StateMap.keyed_ofEntries (by simp [Json.Keyed, hcontent, Json.ofNat, Json.ofInt]),
        StateMap.keyed_ofEntries (by simp [hcontent])⟩
    · cases h

theorem keepsKeys_choice : choice.KeepsKeys := by
  intro input n r _ h
  obtain ⟨branches, -, h⟩ := bind_eq_ok_iff.1 h
  obtain ⟨taken?, -, rfl⟩ := map_eq_ok_iff.1 (mapError_eq_ok_iff.1 h)
  cases taken? with
  | some b => exact ⟨StateMap.keyed_ofEntries (by simp [Json.Keyed]), StateMap.keyed_empty⟩
  | none =>
    simp only
    split
    · exact ⟨StateMap.keyed_ofEntries (by simp [Json.Keyed]), StateMap.keyed_empty⟩
    · exact keyed_failed _

/-- The variables that are handed over have the keys of the mapping, in
order. -/
theorem keyed_context {mapping : NodeConfig} {state : StateMap} (hstate : state.Keyed)
    {fields : List String} {es : Json.Entries} (h : Model.context mapping state fields = .ok es) :
    List.Sublist (Json.Entries.keys es) fields ∧ ∀ e ∈ es, e.2.Keyed := by
  induction fields generalizing es with
  | nil =>
    obtain rfl := Except.ok.inj h
    exact ⟨.slnil, fun e he => absurd he List.not_mem_nil⟩
  | cons field fields ih =>
    obtain ⟨source, -, h⟩ := bind_eq_ok_iff.1 h
    obtain ⟨rest, hrest, h⟩ := bind_eq_ok_iff.1 h
    obtain rfl := Except.ok.inj h
    obtain ⟨hkeys, hvalues⟩ := ih hrest
    cases hfound : source.bind state.find? with
    | none => exact ⟨hkeys.cons field, hvalues⟩
    | some v =>
      obtain ⟨key, -, hv⟩ := Option.bind_eq_some_iff.1 hfound
      exact ⟨hkeys.cons_cons field, List.forall_mem_cons.2 ⟨hstate.find? hv, hvalues⟩⟩

/-- What a response is assigned to takes its parts. -/
theorem keyed_assigned {mapping : NodeConfig} {response : StateMap} (hresponse : response.Keyed)
    {fields : List String} {es : Json.Entries}
    (h : Model.assigned mapping response fields = .ok es) : ∀ e ∈ es, e.2.Keyed := by
  induction fields generalizing es with
  | nil =>
    obtain rfl := Except.ok.inj h
    exact fun e he => absurd he List.not_mem_nil
  | cons field fields ih =>
    obtain ⟨target, -, h⟩ := bind_eq_ok_iff.1 h
    obtain ⟨rest, hrest, h⟩ := bind_eq_ok_iff.1 h
    obtain rfl := Except.ok.inj h
    cases hfound : (response.find? field).bind fun v => target.map fun t => (t, v) with
    | none => exact ih hrest
    | some e =>
      obtain ⟨v, hv, he⟩ := Option.bind_eq_some_iff.1 hfound
      obtain ⟨t, -, rfl⟩ := Option.map_eq_some_iff.1 he
      exact List.forall_mem_cons.2 ⟨hresponse.find? hv, ih hrest⟩

theorem keepsKeys_model : model.KeepsKeys := by
  intro input n r hinput h
  replace h := mapError_eq_ok_iff.1 h
  obtain ⟨instruction, -, h⟩ := bind_eq_ok_iff.1 h
  obtain ⟨name, -, h⟩ := bind_eq_ok_iff.1 h
  obtain ⟨inputs, hinputs, h⟩ := bind_eq_ok_iff.1 h
  obtain ⟨context, hcontext, h⟩ := bind_eq_ok_iff.1 h
  obtain ⟨outputs, -, h⟩ := bind_eq_ok_iff.1 h
  obtain ⟨updates, hupdates, h⟩ := bind_eq_ok_iff.1 h
  obtain rfl := Except.ok.inj h
  obtain ⟨hkeys, hvalues⟩ := keyed_context hinput.state hcontext
  have hdistinct : Json.Entries.Distinct context :=
    hkeys.nodup (hinput.config.section? hinputs).1
  have hobject : (Json.object context).Keyed := ⟨hdistinct, Json.keyedEntries_iff.2 hvalues⟩
  have hresponse : (Model.response (Template.render instruction input.state) name input.stamp
      context).Keyed := StateMap.keyed_ofEntries (by simpa [Json.Keyed] using hobject)
  exact ⟨hresponse, StateMap.keyed_ofEntries (keyed_assigned hresponse hupdates)⟩

theorem keepsKeys_assignment : assignment.KeepsKeys := by
  intro input n r hinput h
  obtain ⟨entries?, hentries, h⟩ := bind_eq_ok_iff.1 h
  obtain rfl := Except.ok.inj h
  replace hentries := mapError_eq_ok_iff.1 hentries
  have hconfigured : ∀ e ∈ entries?.getD [], e.2.Keyed := by
    cases entries? with
    | none => exact fun e he => absurd he List.not_mem_nil
    | some entries => exact Json.keyedEntries_iff.1 (hinput.config.object? hentries).2
  have hresolved : ∀ v : Json, v.Keyed → (Assignment.resolve input.state v).Keyed := by
    intro v hv
    unfold Assignment.resolve
    split
    · next s =>
      cases hfound : Template.referenced? s input.state with
      | none => trivial
      | some w =>
        obtain ⟨key, -, hw⟩ := Option.bind_eq_some_iff.1 hfound
        exact hinput.state.find? hw
    · exact hv
  refine ⟨StateMap.keyed_ofEntries ?_, StateMap.keyed_ofEntries fun e he => ?_⟩
  · simp [Json.Keyed, Json.ofNat, Json.ofInt, Json.keyedItems_iff]
  · obtain ⟨f, hf, rfl⟩ := List.mem_map.1 he
    exact hresolved f.2 (hconfigured f hf)

/-! ## The registry -/

/-- **Every executor of the registry makes documents without repeated
keys.** -/
def Registry.KeepsKeys (r : Registry) : Prop :=
  ∀ kind x, r.resolve? kind = some x → x.KeepsKeys

theorem keepsKeys_of_mem_builtIn (h : (kind, x) ∈ Registry.builtIn.executors) : x.KeepsKeys := by
  simp only [Registry.builtIn, List.mem_cons, Prod.mk.injEq, List.not_mem_nil, or_false] at h
  rcases h with ⟨-, rfl⟩ | ⟨-, rfl⟩ | ⟨-, rfl⟩ | ⟨-, rfl⟩ | ⟨-, rfl⟩ | ⟨-, rfl⟩ | ⟨-, rfl⟩ |
    ⟨-, rfl⟩ | ⟨-, rfl⟩ | ⟨-, rfl⟩
  · exact keepsKeys_passThrough
  · exact keepsKeys_passThrough
  · exact keepsKeys_message
  · exact keepsKeys_question
  · exact keepsKeys_call
  · exact keepsKeys_choice
  · exact keepsKeys_choice
  · exact keepsKeys_model
  · exact keepsKeys_model
  · exact keepsKeys_assignment

/-- **The built-in executors make proper documents.** -/
theorem keepsKeys_builtIn : Registry.builtIn.KeepsKeys := by
  intro kind x h
  rcases Registry.mem_of_resolve? h with h | h <;> exact keepsKeys_of_mem_builtIn h

end Step

end Flowchart
