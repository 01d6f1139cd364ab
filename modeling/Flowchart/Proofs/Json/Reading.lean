import Flowchart.Json.Fields
import Flowchart.Proofs.Json.Exact
import Flowchart.Proofs.Json.Order
import Flowchart.Proofs.Uuid

/-!
# Values are read from the documents they are written as

A reader takes a value from its document if the document is not nested
more deeply than the place where it stands allows, and else it fails
(`Decoder.Reads`). This holds of the readers of texts, identifiers,
documents and states, and it carries over to options, sequences and
records of them (`reads_list`, `reads_record`). So what limits the depth
of a record is its document as a whole.
-/

namespace Flowchart

namespace Json

variable {levels : Nat} {j j' : Json}

/-! ## Documents -/

/-- Entries are written one by one. -/
theorem Raw.ofEntries_eq_map (es : Entries) :
    Raw.ofEntries es = es.map fun e => (some e.1, Raw.ofJson e.2) := by
  induction es with
  | nil => rfl
  | cons e es ih => rw [Raw.ofEntries, ih, List.map_cons]

/-- Each item of a sequence that is read is read. -/
theorem exists_of_toItems?_ofItems {xs ys : List Json}
    (h : Raw.toItems? levels (Raw.ofItems xs) = some ys) :
    ∀ x ∈ xs, ∃ y, (Raw.ofJson x).toJson? levels = some y := by
  induction xs generalizing ys with
  | nil => exact fun x hx => absurd hx List.not_mem_nil
  | cons x xs ih =>
    rw [Raw.ofItems, Raw.toItems?] at h
    split at h
    · next y zs hy hzs => exact List.forall_mem_cons.2 ⟨⟨y, hy⟩, ih hzs⟩
    · cases h

/-- Each value under a key that is read is read. -/
theorem exists_of_toEntries?_ofEntries {es fs : Entries}
    (h : Raw.toEntries? levels (Raw.ofEntries es) = some fs) :
    ∀ e ∈ es, ∃ y, (Raw.ofJson e.2).toJson? levels = some y := by
  induction es generalizing fs with
  | nil => exact fun e he => absurd he List.not_mem_nil
  | cons e es ih =>
    simp only [Raw.ofEntries, Raw.toEntries?] at h
    split at h
    · next k y zs _ hy hzs => exact List.forall_mem_cons.2 ⟨⟨y, hy⟩, ih hzs⟩
    · cases h

/-- **What is nested too deeply is not read.** -/
theorem depth_le_of_toJson?_ofJson (h : (Raw.ofJson j).toJson? levels = some j') :
    j.depth ≤ levels := by
  induction j using induction generalizing levels j' with
  | null | bool | number | string => exact Nat.zero_le _
  | array xs ih =>
    rw [Raw.ofJson, Raw.toJson?] at h
    split at h
    · cases h
    · next hlevels =>
      obtain ⟨ys, hys, -⟩ := Option.map_eq_some_iff.1 h
      have hitems : depthItems xs ≤ levels - 1 := depthItems_le_iff.2 fun x hx => by
        obtain ⟨y, hy⟩ := exists_of_toItems?_ofItems hys x hx
        exact ih x hx hy
      rw [depth]
      omega
  | object es ih =>
    rw [Raw.ofJson, Raw.toJson?] at h
    split at h
    · cases h
    · next hlevels =>
      obtain ⟨fs, hfs, -⟩ := Option.map_eq_some_iff.1 h
      have hentries : depthEntries es ≤ levels - 1 := depthEntries_le_iff.2 fun e he => by
        obtain ⟨y, hy⟩ := exists_of_toEntries?_ofEntries hfs e he
        exact ih e he hy
      rw [depth]
      omega

/-- **What is read of a document**: the document, up to the depth that is
allowed. -/
theorem toJson?_ofJson_eq (h : j.Keyed) :
    (Raw.ofJson j).toJson? levels = if j.depth ≤ levels then some j else none := by
  split
  · next hdepth => exact toJson?_ofJson h hdepth
  · next hdepth =>
    refine Option.eq_none_iff_forall_ne_some.2 fun j' hj' => ?_
    exact hdepth (depth_le_of_toJson?_ofJson hj')

namespace Decoder

variable {α : Type} {d : Decoder α} {a : α}

/-! ## Readers -/

/-- What comes of reading a value that is nested so deeply. -/
def allowed (scope : Scope) (depth : Nat) (a : α) : Except Mismatch α :=
  if depth ≤ scope.levels then .ok a else .error .unreadable

/-- **The reader takes the value from the document**, unless it is nested
too deeply for its place. -/
def Reads (d : Decoder α) (j : Json) (a : α) : Prop :=
  ∀ scope, d scope (Raw.ofJson j) = allowed scope j.depth a

/-- What is not nested is read anywhere. -/
theorem allowed_zero (scope : Scope) (a : α) : allowed scope 0 a = .ok a :=
  if_pos (Nat.zero_le _)

theorem map_allowed {β : Type} (f : α → β) (scope : Scope) (n : Nat) (a : α) :
    (allowed scope n a).map f = allowed scope n (f a) := by
  unfold allowed
  split <;> rfl

/-- **One level further in** one level less is allowed. -/
theorem bind_inner {x : Scope → Except Mismatch α} {n : Nat}
    (h : ∀ scope, x scope = allowed scope n a) (scope : Scope) :
    (inner scope).bind x = allowed scope (n + 1) a := by
  unfold inner
  split
  · next hzero => exact (if_neg (by omega)).symm
  · next hzero =>
    rw [Except.bind, h, allowed, allowed]
    exact if_congr (by simp only; omega) rfl rfl

/-- **Two parts are read** if the deeper one is. -/
theorem bind_allowed {β : Type} {x : α → Except Mismatch β} {scope : Scope} {n : Nat} {b : β}
    (h : x a = allowed scope n b) (m : Nat) :
    (allowed scope m a).bind x = allowed scope (max m n) b := by
  by_cases hm : m ≤ scope.levels
  · rw [allowed, if_pos hm, Except.bind, h]
    exact if_congr (by omega) rfl rfl
  · rw [allowed, if_neg hm, Except.bind]
    exact (if_neg (by omega)).symm

theorem reads_text (s : String) : Reads text (.string s) s :=
  fun scope => (allowed_zero scope s).symm

theorem reads_bool (b : Bool) : Reads bool (.bool b) b :=
  fun scope => (allowed_zero scope b).symm

theorem reads_ofText {read : String → Option α} {mistake : String → Mismatch} {s : String}
    (h : read s = some a) : Reads (ofText read mistake) (.string s) a := by
  intro scope
  rw [depth, allowed_zero, Raw.ofJson, ofText, text, Except.bind]
  simp only [h]

theorem reads_uuid (u : Uuid) : Reads uuid (.ofUuid u) u :=
  reads_ofText u.ofText?_toText

/-- A point in time is read as its text is. -/
theorem reads_instant {t t' : Instant} (h : Instant.ofText? t.toText = some t') :
    Reads instant (.ofInstant t) t' :=
  reads_ofText h

theorem reads_document (h : j.Keyed) : Reads document j j := by
  intro scope
  rw [document, toJson?_ofJson_eq h, allowed]
  by_cases hdepth : j.depth ≤ scope.levels
  · rw [if_pos hdepth, if_pos hdepth]
  · rw [if_neg hdepth, if_neg hdepth]

theorem reads_option (h : Reads d j a) (hj : j ≠ .null) : Reads (option d) j (some a) := by
  intro scope
  rw [← map_allowed, ← h scope]
  cases j with
  | null => exact absurd rfl hj
  | bool | number | string | array | object => rfl

theorem items_cons (d : Decoder α) (scope : Scope) (x : Raw) (xs : List Raw) :
    items d scope (x :: xs) = (d scope x).bind fun a => (items d scope xs).map (a :: ·) := by
  rw [items]
  cases d scope x <;> rfl

/-- **A sequence is read from the documents of its items.** -/
theorem reads_list {js : List Json} {as : List α} (h : List.Forall₂ (Reads d) js as) :
    Reads (list d) (.array js) as := by
  intro scope
  rw [Raw.ofJson, list, depth]
  refine bind_inner (fun scope => ?_) scope
  induction h with
  | nil => exact (allowed_zero scope []).symm
  | cons hj _ ih =>
    rw [Raw.ofItems, items_cons, hj scope, ih, depthItems]
    refine bind_allowed ?_ _
    exact map_allowed ..

theorem mapEntries_cons (d : Decoder α) (scope : Scope) (key : String) (x : Raw)
    (es : List (Option String × Raw)) : mapEntries d scope ((some key, x) :: es) =
      (d scope x).bind fun a => (mapEntries d scope es).map ((key, a) :: ·) := by
  rw [mapEntries]
  cases d scope x <;> rfl

/-- **A state is read from its document.** -/
theorem reads_state {m : StateMap} (h : ∀ e ∈ m.entries, e.2.Keyed) : Reads state m.toJson m := by
  have hentries : ∀ es : Entries, (∀ e ∈ es, e.2.Keyed) → ∀ scope,
      mapEntries document scope (Raw.ofEntries es) = allowed scope (depthEntries es) es := by
    intro es hes scope
    induction es with
    | nil => exact (allowed_zero scope []).symm
    | cons e es ih =>
      obtain ⟨he, hes⟩ := List.forall_mem_cons.1 hes
      rw [Raw.ofEntries, mapEntries_cons, reads_document he scope, ih hes, depthEntries]
      refine bind_allowed ?_ _
      exact map_allowed ..
  intro scope
  rw [StateMap.toJson, Raw.ofJson, state, map, depth]
  refine bind_inner (fun scope => ?_) scope
  rw [hentries m.entries h scope, map_allowed, SortedMap.ofList_entries]

/-! ## Records -/

variable {ρ : Type} {fields : List (Field ρ)} {seen : List String} {r : ρ} {f : Field ρ}
variable {p q : ρ → ρ} {key : String} {values : List (String × Option Json)}

/-- **The field changes the record** as its document says. -/
def ReadsField (f : Field ρ) (j : Json) (p : ρ → ρ) : Prop :=
  ∀ scope r, f.read scope (Raw.ofJson j) r = allowed scope j.depth (p r)

theorem readsField_of {name : String} {put : ρ → α → ρ} (h : Reads d j a) :
    ReadsField (.of name d put) j fun r => put r a := by
  intro scope r
  rw [← map_allowed (put r), ← h scope]
  rfl

theorem ReadsField.need (h : ReadsField f j p) : ReadsField f.need j p :=
  h

/-- **The fields change the record** as those documents say that are
there. -/
def ReadsFields (fields : List (Field ρ)) (seen : List String)
    (values : List (String × Option Json)) (p : ρ → ρ) : Prop :=
  ∀ scope r, readEntries fields scope seen r
    (Raw.ofEntries (values.filterMap fun v => v.2.map fun j => (v.1, j))) =
      allowed scope (depthEntries (values.filterMap fun v => v.2.map fun j => (v.1, j))) (p r)

/-- Every field that has to be there was seen. -/
theorem ReadsFields.nil
    (h : (fields.find? fun f => f.required && !seen.contains f.name) = none) :
    ReadsFields fields seen [] fun r => r := by
  intro scope r
  rw [List.filterMap_nil, Raw.ofEntries, readEntries, h]
  exact (allowed_zero scope r).symm

/-- A field that is not there keeps what the record has. -/
theorem ReadsFields.none (h : ReadsFields fields seen values p) :
    ReadsFields fields seen ((key, Option.none) :: values) p :=
  h

/-- **A field that is there is read**, and then the rest. -/
theorem ReadsFields.some (hfind : fields.find? (·.isNamed key) = Option.some f)
    (hseen : seen.contains f.name = false) (hf : ReadsField f j p)
    (h : ReadsFields fields (f.name :: seen) values q) :
    ReadsFields fields seen ((key, Option.some j) :: values) fun r => q (p r) := by
  intro scope r
  have hfirst : ((key, Option.some j) :: values).filterMap (fun v => v.2.map fun j => (v.1, j)) =
      (key, j) :: values.filterMap fun v => v.2.map fun j => (v.1, j) := rfl
  have hread : readEntries fields scope seen r ((Option.some key, Raw.ofJson j) ::
      Raw.ofEntries (values.filterMap fun v => v.2.map fun j => (v.1, j))) =
        (f.read scope (Raw.ofJson j) r).bind fun r => readEntries fields scope (f.name :: seen) r
          (Raw.ofEntries (values.filterMap fun v => v.2.map fun j => (v.1, j))) := by
    rw [readEntries, hfind]
    simp only [hseen, Bool.false_eq_true, if_false]
    cases f.read scope (Raw.ofJson j) r <;> rfl
  rw [hfirst, Raw.ofEntries, hread, hf scope, depthEntries]
  refine bind_allowed ?_ _
  exact h scope (p r)

/-- A field that was seen does not count if it need not be there and no
value left is named after it. -/
theorem ReadsFields.skip {name : String} (h : ReadsFields fields seen values p)
    (hunused : (fields.all fun f => !(f.required || values.any fun v => f.isNamed v.1) ||
      f.name != name) = true) :
    ReadsFields fields (name :: seen) values p := by
  have hname : ∀ f ∈ fields, (f.required = true ∨ ∃ v ∈ values, f.isNamed v.1 = true) →
      (name :: seen).contains f.name = seen.contains f.name := by
    intro f hf hused
    have hne : f.name ≠ name := by
      have := List.all_eq_true.1 hunused f hf
      simp only [Bool.or_eq_true, Bool.not_eq_true', Bool.or_eq_false_iff, bne_iff_ne,
        List.any_eq_false] at this
      refine this.resolve_left fun hno => ?_
      rcases hused with hreq | ⟨v, hv, hvname⟩
      · exact absurd hreq (by rw [hno.1]; decide)
      · exact hno.2 v hv hvname
    rw [List.contains_cons, beq_false_of_ne hne, Bool.false_or]
  intro scope r
  rw [← h scope r]
  refine readEntries_congr_seen (fun f hf hreq => hname f hf (.inl hreq)) ?_
  intro e he key hkey f hfind
  -- an entry that is written stands for one of the values
  rw [Raw.ofEntries_eq_map] at he
  obtain ⟨entry, hentry, rfl⟩ := List.mem_map.1 he
  obtain ⟨v, hv, hventry⟩ := List.mem_filterMap.1 hentry
  obtain ⟨j, -, rfl⟩ := Option.map_eq_some_iff.1 hventry
  obtain rfl := Option.some.inj hkey
  have hnamed := List.find?_some hfind
  exact hname f (List.mem_of_find?_eq_some hfind) (.inr ⟨v, hv, hnamed⟩)

/-- **A field that may be missing** is read if it is there, and then the
rest. -/
theorem ReadsFields.optional {name : String} {put : ρ → Option α → ρ} {value? : Option Json}
    {a? : Option α} (hfind : fields.find? (·.isNamed key) = Option.some (.of name (option d) put))
    (hseen : seen.contains name = false)
    (hvalue : Option.Rel (fun j a => Reads d j a ∧ j ≠ .null) value? a?)
    (h : ReadsFields fields seen values q)
    (hunused : (fields.all fun f => !(f.required || values.any fun v => f.isNamed v.1) ||
      f.name != name) = true) :
    ReadsFields fields seen ((key, value?) :: values)
      fun r => q (a?.elim r fun a => put r (Option.some a)) := by
  cases hvalue with
  | none => exact h.none
  | some hj => exact .some hfind hseen (readsField_of (reads_option hj.1 hj.2)) (h.skip hunused)

/-- **A record is read from its document.** -/
theorem reads_record {name : String} {r' : ρ} (h : ReadsFields fields [] values p)
    (hp : p r = r') : Reads (record name fields r) (.ofFields values) r' := by
  intro scope
  rw [ofFields, Raw.ofJson, record, depth, ← hp]
  exact bind_inner (fun scope => h scope r) scope

/-! ## Failures -/

/-- **The reader takes nothing from the document**, wherever it stands. -/
def Fails (d : Decoder α) (j : Json) : Prop :=
  ∀ scope, ∃ e, d scope (Raw.ofJson j) = .error e

/-- A text that stands for nothing is not read. -/
theorem fails_ofText {read : String → Option α} {mistake : String → Mismatch} {s : String}
    (h : read s = Option.none) : Fails (ofText read mistake) (.string s) := by
  intro scope
  refine ⟨mistake s, ?_⟩
  rw [Raw.ofJson, ofText, text, Except.bind]
  simp only [h]

/-- A sequence with an item that is not read is not read. -/
theorem fails_list {js : List Json} (hj : j ∈ js) (h : Fails d j) :
    Fails (list d) (.array js) := by
  have hitems : ∀ scope, ∃ e, items d scope (Raw.ofItems js) = .error e := by
    intro scope
    induction js with
    | nil => exact absurd hj List.not_mem_nil
    | cons k js ih =>
      rw [Raw.ofItems, items_cons]
      rcases List.mem_cons.1 hj with rfl | hj
      · obtain ⟨e, he⟩ := h scope
        exact ⟨e, bind_eq_error_iff.2 (.inl he)⟩
      · obtain ⟨e, he⟩ := ih hj
        rw [he]
        cases d scope (Raw.ofJson k) with
        | error e' => exact ⟨e', rfl⟩
        | ok a => exact ⟨e, rfl⟩
  intro scope
  rw [Raw.ofJson, list]
  cases inner scope with
  | error e => exact ⟨e, rfl⟩
  | ok scope' => exact hitems scope'

/-- The field takes nothing from the document. -/
def FailsField (f : Field ρ) (j : Json) : Prop :=
  ∀ scope r, ∃ e, f.read scope (Raw.ofJson j) r = .error e

theorem failsField_of {name : String} {put : ρ → α → ρ} (h : Fails d j) :
    FailsField (.of name d put) j := by
  intro scope r
  obtain ⟨e, he⟩ := h scope
  exact ⟨e, congrArg (Except.map (put r)) he⟩

theorem FailsField.need (h : FailsField f j) : FailsField f.need j :=
  h

/-- **A record with a field that is not read is not read.** -/
theorem fails_record {name : String} (hvalue : (key, Option.some j) ∈ values)
    (hfind : fields.find? (·.isNamed key) = Option.some f)
    (hf : FailsField f j) : Fails (record name fields r) (.ofFields values) := by
  have hentries : ∀ (es : Entries), (key, j) ∈ es → ∀ scope seen r,
      ∃ e, readEntries fields scope seen r (Raw.ofEntries es) = .error e := by
    intro es hes scope
    induction es with
    | nil => exact absurd hes List.not_mem_nil
    | cons v es ih =>
      intro seen r
      rw [Raw.ofEntries]
      cases hread : readEntries fields scope seen r
          ((Option.some v.1, Raw.ofJson v.2) :: Raw.ofEntries es) with
      | error e => exact ⟨e, rfl⟩
      | ok r' =>
        -- what is read must have come past the field that is not read
        rcases readEntries_cons_iff.1 hread with ⟨hnone, hrest⟩ | ⟨g, hg, -, r₁, hr₁, hrest⟩
        · rcases List.mem_cons.1 hes with rfl | hes
          · cases hfind.symm.trans hnone
          · obtain ⟨e, he⟩ := ih hes seen r
            cases he.symm.trans hrest
        · rcases List.mem_cons.1 hes with rfl | hes
          · obtain rfl := Option.some.inj (hfind.symm.trans hg)
            obtain ⟨e, he⟩ := hf scope r
            cases he.symm.trans hr₁
          · obtain ⟨e, he⟩ := ih hes (g.name :: seen) r₁
            cases he.symm.trans hrest
  intro scope
  rw [ofFields, Raw.ofJson, record]
  cases inner scope with
  | error e => exact ⟨e, rfl⟩
  | ok scope' =>
    have hmem : (key, j) ∈ values.filterMap fun v => v.2.map fun j => (v.1, j) :=
      List.mem_filterMap.2 ⟨_, hvalue, rfl⟩
    exact hentries _ hmem scope' [] r

/-! ## Texts -/

/-- **A text over several lines is read as the document**, if its numbers
are read as they are written. -/
theorem ofString_pretty (d : Decoder α) (hexact : j.Exact) :
    d.ofString j.pretty = d {} (Raw.ofJson j) := by
  rw [ofString, ofText?_pretty, reread_of_exact hexact]

end Decoder

end Json

end Flowchart
