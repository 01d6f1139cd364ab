import Flowchart.Json.Decoder
import Flowchart.Proofs.Success
import Mathlib.Data.List.Find
import Mathlib.Data.List.Perm.Basic

/-!
# Records in any order

A record takes its fields from an object one entry after another. An
entry that no field is named after is passed over
(`readEntries_filter`), and fields of their own (`Commutes`) are found
wherever they stand, so entries in another order give the same record
(`readEntries_of_perm`).
-/

namespace Flowchart

namespace Json

namespace Decoder

variable {α β ρ : Type} {fields : List (Field ρ)} {scope : Scope} {seen seen' : List String}
  {r r' : ρ} {es es' : Entries}

/-- **The record has a field of this name.** -/
def knows (fields : List (Field ρ)) (key : String) : Bool :=
  (fields.find? (·.isNamed key)).isSome

/-- Fields with one name each are known by these names. -/
theorem knows_eq_contains (h : ∀ f ∈ fields, f.otherName = none) (key : String) :
    knows fields key = (fields.map (·.name)).contains key := by
  induction fields with
  | nil => rfl
  | cons f fields ih =>
    obtain ⟨hf, hfields⟩ := List.forall_mem_cons.1 h
    have hrest := ih hfields
    rw [List.map_cons, List.contains_cons, ← hrest, knows, knows, List.find?_cons,
      Field.isNamed, hf, BEq.comm (a := key)]
    cases f.name == key <;> simp

/-- **What an entry does to a record**: nothing if no field is named
after it, else it gives the field that was not seen before. -/
theorem readEntries_cons_iff {key : String} {raw : Raw} {raws : List (Option String × Raw)} :
    readEntries fields scope seen r ((some key, raw) :: raws) = .ok r' ↔
      fields.find? (·.isNamed key) = none ∧ readEntries fields scope seen r raws = .ok r' ∨
      ∃ f, fields.find? (·.isNamed key) = some f ∧ f.name ∉ seen ∧
        ∃ r₁, f.read scope raw r = .ok r₁ ∧
          readEntries fields scope (f.name :: seen) r₁ raws = .ok r' := by
  rw [readEntries]
  cases hfind : fields.find? (·.isNamed key) with
  | none => simp
  | some f =>
    by_cases hseen : f.name ∈ seen
    · simp [hseen]
    · cases hread : f.read scope raw r with
      | error e => simp [hseen, hread]
      | ok r₁ => simp [hseen, hread]

/-- A field that was not seen before is read, and then the rest. -/
theorem readEntries_cons {key : String} {raw : Raw} {raws : List (Option String × Raw)}
    {f : Field ρ} {r₁ : ρ} (hfind : fields.find? (·.isNamed key) = some f)
    (hseen : f.name ∉ seen) (hread : f.read scope raw r = .ok r₁) :
    readEntries fields scope seen r ((some key, raw) :: raws) =
      readEntries fields scope (f.name :: seen) r₁ raws := by
  rw [readEntries, hfind]
  simp only [List.contains_eq_mem, hseen, hread]
  rfl

/-- **Entries that no field is named after are passed over.** -/
theorem readEntries_filter :
    readEntries fields scope seen r (Raw.ofEntries (es.filter fun e => knows fields e.1)) =
      readEntries fields scope seen r (Raw.ofEntries es) := by
  induction es generalizing seen r with
  | nil => rfl
  | cons e es ih =>
    rw [Raw.ofEntries]
    cases hfind : fields.find? (·.isNamed e.1) with
    | none => rw [List.filter_cons_of_neg (by simp [knows, hfind]), ih, readEntries, hfind]
    | some f =>
      rw [List.filter_cons_of_pos (by simp [knows, hfind]), Raw.ofEntries, readEntries,
        readEntries, hfind]
      simp only [ih]

/-- Of the fields that were seen only those count that have to be there
or that an entry is named after, and of these only the names. -/
theorem readEntries_congr_seen {raws : List (Option String × Raw)}
    (hrequired : ∀ f ∈ fields, f.required = true →
      seen.contains f.name = seen'.contains f.name)
    (hnamed : ∀ e ∈ raws, ∀ key ∈ e.1, ∀ f, fields.find? (·.isNamed key) = some f →
      seen.contains f.name = seen'.contains f.name) :
    readEntries fields scope seen r raws = readEntries fields scope seen' r raws := by
  induction raws generalizing seen seen' r with
  | nil =>
    have hmissing : (fields.find? fun f => f.required && !seen.contains f.name) =
        fields.find? fun f => f.required && !seen'.contains f.name := by
      refine List.find?_congr fun f hf => ?_
      cases hf' : f.required with
      | false => rfl
      | true => rw [hrequired f hf hf']
    rw [readEntries, readEntries, hmissing]
  | cons e raws ih =>
    obtain ⟨_ | key, raw⟩ := e
    · rfl
    · obtain ⟨hkey, hnamed⟩ := List.forall_mem_cons.1 hnamed
      -- one name more on both sides
      have rest (f : Field ρ) (r₁ : ρ) : readEntries fields scope (f.name :: seen) r₁ raws =
          readEntries fields scope (f.name :: seen') r₁ raws := by
        refine ih (fun g hg hreq => ?_) fun e he key hkey g hg => ?_
        · rw [List.contains_cons, List.contains_cons, hrequired g hg hreq]
        · rw [List.contains_cons, List.contains_cons, hnamed e he key hkey g hg]
      rw [readEntries, readEntries]
      cases hfind : fields.find? (·.isNamed key) with
      | none => exact ih hrequired hnamed
      | some f => simp only [hkey key rfl f hfind, rest]

/-! ## Order -/

/-- **Two fields that may be read in either order.** -/
def Field.Commutes (f g : Field ρ) : Prop :=
  ∀ scope x y r r', (f.read scope x r).bind (g.read scope y) = .ok r' →
    (g.read scope y r).bind (f.read scope x) = .ok r'

/-- Fields that are stored in different places may be read in either
order. -/
theorem Field.commutes_of {name name' : String} (d : Decoder α) (d' : Decoder β)
    {put : ρ → α → ρ} {put' : ρ → β → ρ} (h : ∀ r a b, put' (put r a) b = put (put' r b) a) :
    (Field.of name d put).Commutes (.of name' d' put') := by
  intro scope x y r r' hr
  obtain ⟨r₁, hr₁, hr⟩ := bind_eq_ok_iff.1 hr
  obtain ⟨a, ha, rfl⟩ := map_eq_ok_iff.1 hr₁
  obtain ⟨b, hb, rfl⟩ := map_eq_ok_iff.1 hr
  refine bind_eq_ok_iff.2 ⟨put' r b, map_eq_ok_iff.2 ⟨b, hb, rfl⟩, ?_⟩
  exact map_eq_ok_iff.2 ⟨a, ha, (h r a b).symm⟩

/-- Two entries that follow one another may change places. -/
theorem readEntries_swap
    (hcommutes : ∀ f ∈ fields, ∀ g ∈ fields, f.name ≠ g.name → f.Commutes g)
    {key key' : String} {raw raw' : Raw} {raws : List (Option String × Raw)}
    (h : readEntries fields scope seen r ((some key, raw) :: (some key', raw') :: raws) = .ok r') :
    readEntries fields scope seen r ((some key', raw') :: (some key, raw) :: raws) = .ok r' := by
  rcases readEntries_cons_iff.1 h with ⟨hf, h⟩ | ⟨f, hf, hseen, r₁, hr₁, h⟩
  · rcases readEntries_cons_iff.1 h with ⟨hg, h⟩ | ⟨g, hg, hseen', r₂, hr₂, h⟩
    · exact readEntries_cons_iff.2 (.inl ⟨hg, readEntries_cons_iff.2 (.inl ⟨hf, h⟩)⟩)
    · exact readEntries_cons_iff.2
        (.inr ⟨g, hg, hseen', r₂, hr₂, readEntries_cons_iff.2 (.inl ⟨hf, h⟩)⟩)
  · rcases readEntries_cons_iff.1 h with ⟨hg, h⟩ | ⟨g, hg, hseen', r₂, hr₂, h⟩
    · exact readEntries_cons_iff.2
        (.inl ⟨hg, readEntries_cons_iff.2 (.inr ⟨f, hf, hseen, r₁, hr₁, h⟩)⟩)
    -- both are fields, and not the same one, which would be there twice
    · obtain ⟨hne, hseen'⟩ : g.name ≠ f.name ∧ g.name ∉ seen := by simpa using hseen'
      obtain ⟨r₃, hr₃, hr⟩ := bind_eq_ok_iff.1
        (hcommutes f (List.mem_of_find?_eq_some hf) g (List.mem_of_find?_eq_some hg) hne.symm
          scope raw raw' r r₂ (bind_eq_ok_iff.2 ⟨r₁, hr₁, hr₂⟩))
      have hlast : readEntries fields scope (f.name :: g.name :: seen) r₂ raws = .ok r' := by
        rw [← h]
        have hswap (name : String) : (f.name :: g.name :: seen).contains name =
            (g.name :: f.name :: seen).contains name := by simp [Bool.or_left_comm]
        exact readEntries_congr_seen (fun _ _ _ => hswap _) fun _ _ _ _ _ _ => hswap _
      exact readEntries_cons_iff.2 (.inr ⟨g, hg, hseen', r₃, hr₃, readEntries_cons_iff.2
        (.inr ⟨f, hf, by simp [hne.symm, hseen], r₂, hr, hlast⟩)⟩)

/-- **Entries in another order give the same record.** -/
theorem readEntries_of_perm
    (hcommutes : ∀ f ∈ fields, ∀ g ∈ fields, f.name ≠ g.name → f.Commutes g) (hp : es.Perm es')
    (h : readEntries fields scope seen r (Raw.ofEntries es) = .ok r') :
    readEntries fields scope seen r (Raw.ofEntries es') = .ok r' := by
  induction hp generalizing seen r with
  | nil => exact h
  | cons e hp ih =>
    rcases readEntries_cons_iff.1 h with ⟨hf, h⟩ | ⟨f, hf, hseen, r₁, hr₁, h⟩
    · exact readEntries_cons_iff.2 (.inl ⟨hf, ih h⟩)
    · exact readEntries_cons_iff.2 (.inr ⟨f, hf, hseen, r₁, hr₁, ih h⟩)
  | swap e d es => exact readEntries_swap hcommutes h
  | trans _ _ ih ih' => exact ih' (ih h)

end Decoder

end Json

end Flowchart
