import Flowchart.Json.Fields
import Flowchart.Proofs.Json.Exact
import Flowchart.Proofs.Json.Order

/-!
# What readers give

Whatever the written form is, what a reader takes from it has no key
twice in one object and is nested no more deeply than its place allows
(`gives_document`). This carries over from the readers of values to those
of options, sequences and states (`Gives.option`, `Gives.list`,
`gives_state`). A record has it too, in whatever order its fields come
and whichever are missing, since each field keeps it (`gives_record`).
-/

namespace Flowchart

namespace Json

variable {levels : Nat} {j : Json}

/-- **The document fits** into so many levels: no object in it has a key
twice, and it is not nested more deeply. -/
structure Fits (levels : Nat) (j : Json) : Prop where
  /-- No object has a key twice. -/
  keyed : j.Keyed
  /-- It is within the levels. -/
  depth : j.depth ≤ levels

namespace Decoder

variable {α ρ : Type} {d : Decoder α} {P : Nat → α → Prop} {I : Nat → ρ → Prop}
  {fields : List (Field ρ)} {f : Field ρ} {scope : Scope} {r r' : ρ}

/-! ## Readers of values -/

/-- **All that the reader gives** is as the levels of its place make it. -/
def Gives (d : Decoder α) (P : Nat → α → Prop) : Prop :=
  ∀ scope raw a, d scope raw = .ok a → P scope.levels a

/-- A reader of which nothing is known. -/
theorem gives_any (d : Decoder α) : Gives d fun _ _ => True :=
  fun _ _ _ _ => trivial

/-- What stands further in has one level less. -/
theorem inner_eq_ok {scope' : Scope} (h : inner scope = .ok scope') :
    scope'.levels = scope.levels - 1 := by
  unfold inner at h
  split at h
  · cases h
  · obtain rfl := Except.ok.inj h
    rfl

theorem toJson?_of_document {raw : Raw} (h : document scope raw = .ok j) :
    raw.toJson? scope.levels = some j := by
  rw [document] at h
  cases hread : raw.toJson? scope.levels with
  | none => simp [hread] at h
  | some j' =>
    rw [hread] at h
    exact congrArg some (Except.ok.inj h)

/-- **A document that is read fits** where it stands. -/
theorem gives_document : Gives document Fits := by
  intro scope raw j h
  have hread := toJson?_of_document h
  exact ⟨keyed_of_toJson? hread, depth_le_of_toJson? hread⟩

/-- What is written as null, and nothing else, is read as null. -/
theorem ne_null_of_document {raw : Raw} (hraw : raw ≠ .null) (h : document scope raw = .ok j) :
    j ≠ .null := by
  have hread := toJson?_of_document h
  rintro rfl
  cases raw with
  | null => exact hraw rfl
  | bool b => cases hread
  | number n | string s =>
    obtain ⟨x, -, hx⟩ := Option.map_eq_some_iff.1 hread
    cases hx
  | array raws | object raws =>
    rw [Raw.toJson?] at hread
    split at hread
    · cases hread
    · obtain ⟨x, -, hx⟩ := Option.map_eq_some_iff.1 hread
      cases hx

/-- What an option holds was read, and not from null. -/
theorem exists_of_option {raw : Raw} {a : α} (h : option d scope raw = .ok (some a)) :
    raw ≠ .null ∧ d scope raw = .ok a := by
  unfold option at h
  split at h
  · cases h
  · next hraw =>
    obtain ⟨b, hb, hba⟩ := map_eq_ok_iff.1 h
    obtain rfl := Option.some.inj hba
    exact ⟨hraw, hb⟩

/-- **No option holds null**: null is read as no value. -/
theorem gives_option_document :
    Gives (option document) fun levels o => ∀ j ∈ o, j ≠ .null ∧ j.Fits levels := by
  rintro scope raw o h j rfl
  obtain ⟨hraw, hj⟩ := exists_of_option h
  exact ⟨ne_null_of_document hraw hj, gives_document _ _ _ hj⟩

/-- The items of a sequence stand one level further in. -/
theorem Gives.list (h : Gives d P) :
    Gives (list d) fun levels as => ∀ a ∈ as, P (levels - 1) a := by
  have hitems : ∀ (scope : Scope) (raws : List Raw) (as : List α),
      items d scope raws = .ok as → ∀ a ∈ as, P scope.levels a := by
    intro scope raws
    induction raws with
    | nil =>
      intro as has
      obtain rfl := Except.ok.inj has
      exact fun a ha => absurd ha List.not_mem_nil
    | cons raw raws ih =>
      intro as has
      rw [items] at has
      cases hraw : d scope raw with
      | error e => simp [hraw] at has
      | ok b =>
        rw [hraw] at has
        obtain ⟨bs, hbs, rfl⟩ := map_eq_ok_iff.1 has
        exact List.forall_mem_cons.2 ⟨h _ _ _ hraw, ih bs hbs⟩
  intro scope raw as has
  unfold Decoder.list at has
  split at has
  · next raws =>
    obtain ⟨scope', hscope, has⟩ := bind_eq_ok_iff.1 has
    rw [← inner_eq_ok hscope]
    exact hitems scope' raws as has
  · cases has

/-- The values of a state stand one level further in. -/
theorem gives_state : Gives state fun levels m => ∀ e ∈ m.entries, e.2.Fits (levels - 1) := by
  have hentries : ∀ (scope : Scope) (raws : List (Option String × Raw)) (es : Entries),
      mapEntries document scope raws = .ok es → ∀ e ∈ es, e.2.Fits scope.levels := by
    intro scope raws
    induction raws with
    | nil =>
      intro es hes
      obtain rfl := Except.ok.inj hes
      exact fun e he => absurd he List.not_mem_nil
    | cons raw raws ih =>
      intro es hes
      obtain ⟨_ | key, raw⟩ := raw
      · cases hes
      · rw [mapEntries] at hes
        cases hraw : document scope raw with
        | error e => simp [hraw] at hes
        | ok v =>
          rw [hraw] at hes
          obtain ⟨fs, hfs, rfl⟩ := map_eq_ok_iff.1 hes
          exact List.forall_mem_cons.2 ⟨gives_document _ _ _ hraw, ih fs hfs⟩
  intro scope raw m hm
  unfold state map at hm
  split at hm
  · next raws =>
    obtain ⟨scope', hscope, hm⟩ := bind_eq_ok_iff.1 hm
    obtain ⟨es, hes, rfl⟩ := map_eq_ok_iff.1 hm
    rw [← inner_eq_ok hscope]
    exact fun e he => hentries scope' raws es hes e (SortedMap.mem_of_mem_ofList he)
  · cases hm

/-! ## Records -/

/-- **The field keeps** what is said of the record at its levels. -/
def Field.Keeps (f : Field ρ) (I : Nat → ρ → Prop) : Prop :=
  ∀ scope raw r r', I scope.levels r → f.read scope raw r = .ok r' → I scope.levels r'

/-- A field keeps what its value has and the rest of the record had. -/
theorem Gives.keeps {name : String} {put : ρ → α → ρ} (h : Gives d P)
    (hput : ∀ levels r a, I levels r → P levels a → I levels (put r a)) :
    (Field.of name d put).Keeps I := by
  intro scope raw r r' hr hread
  obtain ⟨a, ha, rfl⟩ := map_eq_ok_iff.1 hread
  exact hput _ r a hr (h _ _ _ ha)

theorem Field.Keeps.need (h : f.Keeps I) : f.need.Keeps I :=
  h

theorem keeps_readEntries (hfields : ∀ f ∈ fields, f.Keeps I) {seen : List String}
    {raws : List (Option String × Raw)} (hr : I scope.levels r)
    (h : readEntries fields scope seen r raws = .ok r') : I scope.levels r' := by
  induction raws generalizing seen r with
  | nil =>
    rw [readEntries] at h
    split at h
    · cases h
    · obtain rfl := Except.ok.inj h
      exact hr
  | cons e raws ih =>
    obtain ⟨_ | key, raw⟩ := e
    · cases h
    · rcases readEntries_cons_iff.1 h with ⟨-, h⟩ | ⟨f, hf, -, r₁, hr₁, h⟩
      · exact ih hr h
      · exact ih (hfields f (List.mem_of_find?_eq_some hf) scope raw r r₁ hr hr₁) h

theorem keeps_readItems (hfields : ∀ f ∈ fields, f.Keeps I) {count taken : Nat}
    {raws : List Raw} (hr : I scope.levels r)
    (h : readItems scope count taken fields r raws = .ok r') : I scope.levels r' := by
  induction raws generalizing taken fields r with
  | nil =>
    rw [readItems] at h
    split at h
    · cases h
    · obtain rfl := Except.ok.inj h
      exact hr
  | cons raw raws ih =>
    cases fields with
    | nil => cases h
    | cons f fields =>
      obtain ⟨hf, hfields⟩ := List.forall_mem_cons.1 hfields
      rw [readItems] at h
      cases hread : f.read scope raw r with
      | error e => simp [hread] at h
      | ok r₁ =>
        rw [hread] at h
        exact ih hfields (hf scope raw r r₁ hr hread) h

/-- **A record has what each of its fields keeps**, whether it is read
from an object or from a sequence. -/
theorem gives_record {name : String} {start : ρ} (hfields : ∀ f ∈ fields, f.Keeps I)
    (hstart : ∀ levels, I levels start) :
    Gives (record name fields start) fun levels r => I (levels - 1) r := by
  intro scope raw r h
  unfold record at h
  split at h
  · obtain ⟨scope', hscope, h⟩ := bind_eq_ok_iff.1 h
    rw [← inner_eq_ok hscope]
    exact keeps_readEntries hfields (hstart _) h
  · obtain ⟨scope', hscope, h⟩ := bind_eq_ok_iff.1 h
    rw [← inner_eq_ok hscope]
    exact keeps_readItems hfields (hstart _) h
  · cases h

end Decoder

end Json

end Flowchart
