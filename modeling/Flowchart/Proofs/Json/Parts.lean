import Flowchart.Json.Fields
import Flowchart.Proofs.Json.Order
import Flowchart.Proofs.Json.Written

/-!
# What a round trip leaves of the parts

A document that was written and is read again may have lost numbers, so
a reader may take another value from it or none. But what it takes, it
takes from the parts: each text is the one that was there
(`takes_document`), and a sequence, a state and a record have what is
taken from their items, their values and their fields (`takes_list`,
`takes_state`, `takes_record`).
-/

namespace Flowchart

namespace Json

/-- The text that the document is, if it is one. -/
def text? : Json → Option String
  | .string s => some s
  | .null | .bool _ | .number _ | .array _ | .object _ => none

namespace Decoder

variable {α ρ : Type} {d : Decoder α} {j : Json} {scope : Scope}

/-! ## Readers of values -/

/-- **All that the reader takes from the document** after a round trip
has the property. -/
def Takes (d : Decoder α) (j : Json) (P : α → Prop) : Prop :=
  ∀ scope a, d scope (Raw.reread j) = .ok a → P a

/-- **A text stays a text**, and nothing else becomes one. -/
theorem takes_document (j : Json) : Takes document j fun k => k.text? = j.text? := by
  intro scope k h
  rw [document] at h
  split at h
  · next k' hread =>
    obtain rfl := Except.ok.inj h
    cases j with
    | null | bool | string =>
      obtain rfl := Option.some.inj hread
      rfl
    | number n =>
      obtain ⟨m, -, rfl⟩ := Option.map_eq_some_iff.1 hread
      rfl
    | array xs | object es =>
      rw [Raw.reread, Raw.toJson?] at hread
      split at hread
      · cases hread
      · obtain ⟨parts, -, rfl⟩ := Option.map_eq_some_iff.1 hread
        rfl
  · cases h

/-- **The items of a sequence** are taken one by one. -/
theorem takes_list {β : Type} {P : β → α → Prop} {written : β → Json} {bs : List β}
    (h : ∀ b ∈ bs, Takes d (written b) (P b)) :
    Takes (list d) (.array (bs.map written)) (List.Forall₂ P bs) := by
  have hitems : ∀ (scope : Scope) (as : List α),
      items d scope (Raw.rereadItems (bs.map written)) = .ok as → List.Forall₂ P bs as := by
    intro scope
    induction bs with
    | nil =>
      intro as has
      obtain rfl := Except.ok.inj has
      exact .nil
    | cons b bs ih =>
      obtain ⟨hb, hbs⟩ := List.forall_mem_cons.1 h
      intro as has
      rw [List.map_cons, Raw.rereadItems, items] at has
      split at has
      · cases has
      · next a ha =>
        obtain ⟨rest, hrest, rfl⟩ := map_eq_ok_iff.1 has
        exact .cons (hb scope a ha) (ih hbs rest hrest)
  intro scope as has
  obtain ⟨inside, -, has⟩ := bind_eq_ok_iff.1 has
  exact hitems inside as has

/-- What is taken from entries has their keys, and their texts. -/
theorem forall₂_of_mapEntries {es fs : List (String × Json)}
    (h : mapEntries document scope (Raw.rereadEntries es) = .ok fs) :
    List.Forall₂ (fun e f => f.1 = e.1 ∧ f.2.text? = e.2.text?) es fs := by
  induction es generalizing fs with
  | nil =>
    obtain rfl := Except.ok.inj h
    exact .nil
  | cons e es ih =>
    rw [Raw.rereadEntries, mapEntries] at h
    split at h
    · cases h
    · next k hk =>
      obtain ⟨gs, hgs, rfl⟩ := map_eq_ok_iff.1 h
      exact .cons ⟨rfl, takes_document e.2 scope k hk⟩ (ih hgs)

/-- Entries with the same keys and texts have the same text under each
key. -/
theorem text?_findIn? {es fs : List (String × Json)}
    (h : List.Forall₂ (fun e f => f.1 = e.1 ∧ f.2.text? = e.2.text?) es fs) (key : String) :
    (SortedMap.findIn? key fs).bind text? = (SortedMap.findIn? key es).bind text? := by
  induction h with
  | nil => rfl
  | cons hef _ ih =>
    obtain ⟨hkey, htext⟩ := hef
    rw [SortedMap.findIn?, SortedMap.findIn?, hkey]
    split
    · exact htext
    · exact ih

/-- **A state keeps the texts of its variables.** -/
theorem takes_state (m : StateMap) : Takes state m.toJson fun n =>
    ∀ key, (n.find? key).bind text? = (m.find? key).bind text? := by
  intro scope n h key
  obtain ⟨inside, -, h⟩ := bind_eq_ok_iff.1 h
  obtain ⟨fs, hfs, rfl⟩ := map_eq_ok_iff.1 h
  have hentries := forall₂_of_mapEntries hfs
  -- the keys are those of the state, so they are distinct
  have hkeys : fs.map (·.1) = m.entries.map (·.1) := by
    refine List.forall₂_eq_eq_eq ▸ List.forall₂_map_left_iff.2 (List.forall₂_map_right_iff.2 ?_)
    exact hentries.flip.imp fun f e hef => hef.1
  rw [SortedMap.find?_ofList (hkeys ▸ m.nodup_keys)]
  exact text?_findIn? hentries key

/-! ## Records -/

variable {fields : List (Field ρ)} {f : Field ρ} {key : String} {part : ρ → α}

/-- The field leaves a part of the record as it is. -/
def Field.Spares (f : Field ρ) (part : ρ → α) : Prop :=
  ∀ scope raw r r', f.read scope raw r = .ok r' → part r' = part r

theorem Field.spares_of {β : Type} {name : String} {d : Decoder β} {put : ρ → β → ρ}
    (h : ∀ r b, part (put r b) = part r) : (Field.of name d put).Spares part := by
  intro scope raw r r' hread
  obtain ⟨b, -, rfl⟩ := map_eq_ok_iff.1 hread
  exact h r b

theorem Field.Spares.need (h : f.Spares part) : f.need.Spares part :=
  h

/-- A part that only one field gives stays as it is once this field was
seen. -/
theorem part_readEntries (hother : ∀ g ∈ fields, g.name ≠ f.name → g.Spares part)
    {seen : List String} {r r' : ρ} {raws : List (Option String × Raw)} (hseen : f.name ∈ seen)
    (h : readEntries fields scope seen r raws = .ok r') : part r' = part r := by
  induction raws generalizing seen r with
  | nil =>
    rw [readEntries] at h
    split at h
    · cases h
    · obtain rfl := Except.ok.inj h
      rfl
  | cons e raws ih =>
    obtain ⟨_ | key, raw⟩ := e
    · cases h
    · rcases readEntries_cons_iff.1 h with ⟨-, h⟩ | ⟨g, hg, hnew, r₁, hr₁, h⟩
      · exact ih hseen h
      · have hne : g.name ≠ f.name := fun heq => hnew (heq ▸ hseen)
        rw [ih (List.mem_cons_of_mem _ hseen) h]
        exact hother g (List.mem_of_find?_eq_some hg) hne scope raw r r₁ hr₁

/-- **A part that one field gives** is what its reader takes from the
entry of this field, wherever the entry stands. -/
theorem read_of_readEntries (hfind : fields.find? (·.isNamed key) = some f)
    (hpart : ∀ scope raw r r', f.read scope raw r = .ok r' → d scope raw = .ok (part r'))
    (hother : ∀ g ∈ fields, g.name ≠ f.name → g.Spares part) {seen : List String} {r r' : ρ}
    {raw : Raw} {raws : List (Option String × Raw)} (hmem : (some key, raw) ∈ raws)
    (h : readEntries fields scope seen r raws = .ok r') : d scope raw = .ok (part r') := by
  induction raws generalizing seen r with
  | nil => cases hmem
  | cons e raws ih =>
    obtain ⟨_ | key', raw'⟩ := e
    · cases h
    · rcases readEntries_cons_iff.1 h with ⟨hnone, h⟩ | ⟨g, hg, -, r₁, hr₁, h⟩
      · rcases List.mem_cons.1 hmem with heq | hmem
        · obtain ⟨hkey, -⟩ := Prod.mk.inj heq
          obtain rfl := Option.some.inj hkey
          cases hfind.symm.trans hnone
        · exact ih hmem h
      · rcases List.mem_cons.1 hmem with heq | hmem
        · obtain ⟨hkey, rfl⟩ := Prod.mk.inj heq
          obtain rfl := Option.some.inj hkey
          obtain rfl := Option.some.inj (hfind.symm.trans hg)
          rw [part_readEntries hother List.mem_cons_self h]
          exact hpart scope raw r r₁ hr₁
        · exact ih hmem h

theorem rereadEntries_eq_map (es : Entries) :
    Raw.rereadEntries es = es.map fun e => (some e.1, Raw.reread e.2) := by
  induction es with
  | nil => rfl
  | cons e es ih => rw [Raw.rereadEntries, ih, List.map_cons]

/-- **A record has what is taken from its field**, if no other field
gives this part of it. -/
theorem takes_record {P : α → Prop} {name fieldName : String} {put : ρ → α → ρ}
    {values : List (String × Option Json)} (start : ρ) (part : ρ → α)
    (hvalue : (key, some j) ∈ values)
    (hfind : fields.find? (·.isNamed key) = some (.of fieldName d put))
    (hput : ∀ r a, part (put r a) = a)
    (hother : ∀ g ∈ fields, g.name ≠ fieldName → g.Spares part) (h : Takes d j P) :
    Takes (record name fields start) (.ofFields values) fun r => P (part r) := by
  intro scope r hr
  obtain ⟨inside, -, hr⟩ := bind_eq_ok_iff.1 hr
  refine h inside _ (read_of_readEntries hfind (fun scope raw r r' hread => ?_) hother ?_ hr)
  · obtain ⟨a, ha, rfl⟩ := map_eq_ok_iff.1 hread
    rw [hput]
    exact ha
  · have hentry : (key, j) ∈ values.filterMap fun v => v.2.map fun j => (v.1, j) :=
      List.mem_filterMap.2 ⟨_, hvalue, rfl⟩
    rw [rereadEntries_eq_map]
    exact List.mem_map.2 ⟨_, hentry, rfl⟩

end Decoder

end Json

end Flowchart
