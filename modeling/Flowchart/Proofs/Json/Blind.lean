import Flowchart.Proofs.Json.Reread
import Flowchart.Proofs.Success
import Flowchart.Step.Branch

/-!
# Readers that do not look at numbers

A round trip changes a document only in its numbers. What a reader makes
of a document without looking at a number is the same before and after
it (`Decoder.Blind`), whatever other numbers stand around. Readers of
texts, of truth values, and of records and sequences of them are blind,
and a list that a blind reader takes from one configuration it takes
from every other that differs in numbers only (`readList?_of_alike`).
-/

namespace Flowchart

namespace Json

mutual

/-- The written form with its numbers blotted out. -/
def Raw.blind : Raw → Raw
  | .null => .null
  | .bool b => .bool b
  | .number _ => .number none
  | .string s => .string s
  | .array xs => .array (blindItems xs)
  | .object es => .object (blindEntries es)

/-- A sequence with its numbers blotted out. -/
def Raw.blindItems : List Raw → List Raw
  | [] => []
  | x :: xs => blind x :: blindItems xs

/-- Entries with their numbers blotted out. -/
def Raw.blindEntries : List (Option String × Raw) → List (Option String × Raw)
  | [] => []
  | (k, x) :: es => (k, blind x) :: blindEntries es

end

variable {r r' : Raw}

theorem blindItems_eq_map (xs : List Raw) : Raw.blindItems xs = xs.map Raw.blind := by
  induction xs with
  | nil => rfl
  | cons x xs ih => rw [Raw.blindItems, ih, List.map_cons]

/-- **A round trip changes numbers only.** -/
theorem blind_reread (j : Json) : (Raw.reread j).blind = (Raw.ofJson j).blind := by
  induction j using induction with
  | null | bool | number | string => rfl
  | array xs ih =>
    rw [Raw.reread, Raw.ofJson, Raw.blind, Raw.blind]
    congr 1
    induction xs with
    | nil => rfl
    | cons x xs ihxs =>
      rw [Raw.rereadItems, Raw.ofItems, Raw.blindItems, Raw.blindItems, ih x List.mem_cons_self,
        ihxs fun y hy => ih y (List.mem_cons_of_mem x hy)]
  | object es ih =>
    rw [Raw.reread, Raw.ofJson, Raw.blind, Raw.blind]
    congr 1
    induction es with
    | nil => rfl
    | cons e es ihes =>
      rw [Raw.rereadEntries, Raw.ofEntries, Raw.blindEntries, Raw.blindEntries,
        ih e List.mem_cons_self, ihes fun y hy => ih y (List.mem_cons_of_mem e hy)]

/-- Only null looks like null. -/
theorem blind_eq_null_iff : r.blind = .null ↔ r = .null := by
  cases r <;> simp [Raw.blind]

/-- Only the text itself looks like it. -/
theorem eq_string_of_blind {s : Option String} (h : (Raw.string s).blind = r.blind) :
    r = .string s := by
  cases r <;> simp_all [Raw.blind]

theorem eq_bool_of_blind {b : Bool} (h : (Raw.bool b).blind = r.blind) : r = .bool b := by
  cases r <;> simp_all [Raw.blind]

/-- Only sequences look like sequences, item by item. -/
theorem exists_items_of_blind {xs : List Raw} (h : (Raw.array xs).blind = r.blind) :
    ∃ ys, r = .array ys ∧ Raw.blindItems xs = Raw.blindItems ys := by
  cases r <;> simp_all [Raw.blind]

/-- Only objects look like objects, entry by entry. -/
theorem exists_entries_of_blind {es : List (Option String × Raw)}
    (h : (Raw.object es).blind = r.blind) :
    ∃ fs, r = .object fs ∧ Raw.blindEntries es = Raw.blindEntries fs := by
  cases r <;> simp_all [Raw.blind]

theorem exists_cons_of_blindItems {x : Raw} {xs ys : List Raw}
    (h : Raw.blindItems (x :: xs) = Raw.blindItems ys) :
    ∃ y zs, ys = y :: zs ∧ x.blind = y.blind ∧ Raw.blindItems xs = Raw.blindItems zs := by
  cases ys with
  | nil => simp [Raw.blindItems] at h
  | cons y zs => exact ⟨y, zs, rfl, List.cons.inj h⟩

theorem exists_cons_of_blindEntries {k : Option String} {x : Raw}
    {es fs : List (Option String × Raw)}
    (h : Raw.blindEntries ((k, x) :: es) = Raw.blindEntries fs) :
    ∃ y gs, fs = (k, y) :: gs ∧ x.blind = y.blind ∧
      Raw.blindEntries es = Raw.blindEntries gs := by
  cases fs with
  | nil => simp [Raw.blindEntries] at h
  | cons f gs =>
    obtain ⟨hhead, htail⟩ := List.cons.inj h
    obtain ⟨rfl, hx⟩ := Prod.mk.inj hhead
    exact ⟨f.2, gs, rfl, hx, htail⟩

/-! ## Blind readers -/

namespace Decoder

variable {α ρ : Type} {d : Decoder α}

/-- **The reader does not look at numbers**: what it reads from a
document it reads from every other that differs in numbers only. -/
def Blind (d : Decoder α) : Prop :=
  ∀ scope r r' a, r.blind = r'.blind → d scope r = .ok a → d scope r' = .ok a

/-- The same of a field of a record. -/
def Field.Blind (f : Field ρ) : Prop :=
  ∀ scope r r' s t, r.blind = r'.blind → f.read scope r s = .ok t → f.read scope r' s = .ok t

theorem blind_text : text.Blind := by
  intro scope r r' a hr h
  unfold text at h
  split at h
  · rw [eq_string_of_blind hr]
    exact h
  · cases h

theorem blind_bool : bool.Blind := by
  intro scope r r' a hr h
  unfold bool at h
  split at h
  · rw [eq_bool_of_blind hr]
    exact h
  · cases h

theorem option_of_ne_null {scope : Scope} (h : r ≠ .null) :
    option d scope r = (d scope r).map some := by
  unfold option
  split
  · exact absurd rfl h
  · rfl

theorem Blind.option (hd : d.Blind) : (option d).Blind := by
  intro scope r r' a hr h
  by_cases hnull : r = .null
  · subst hnull
    rw [blind_eq_null_iff.1 hr.symm]
    exact h
  -- only null looks like null, so neither document is
  · have hnull' : r' ≠ .null := fun h' =>
      hnull (blind_eq_null_iff.1 (hr.trans (blind_eq_null_iff.2 h')))
    rw [option_of_ne_null hnull] at h
    rw [option_of_ne_null hnull']
    obtain ⟨v, hv, rfl⟩ := map_eq_ok_iff.1 h
    rw [hd scope r r' v hr hv]
    rfl

theorem Blind.items (hd : d.Blind) {scope : Scope} {xs ys : List Raw} {as : List α}
    (hxs : Raw.blindItems xs = Raw.blindItems ys) (h : items d scope xs = .ok as) :
    items d scope ys = .ok as := by
  induction xs generalizing ys as with
  | nil =>
    cases ys with
    | nil => exact h
    | cons y ys => simp [Raw.blindItems] at hxs
  | cons x xs ih =>
    obtain ⟨y, zs, rfl, hx, hrest⟩ := exists_cons_of_blindItems hxs
    rw [Decoder.items] at h ⊢
    split at h
    · cases h
    · next a ha =>
      obtain ⟨bs, hbs, rfl⟩ := map_eq_ok_iff.1 h
      simp only [hd scope x y a hx ha, ih hrest hbs]
      rfl

/-- **A sequence is read blindly if its items are.** -/
theorem Blind.list (hd : d.Blind) : (list d).Blind := by
  intro scope r r' a hr h
  unfold Decoder.list at h
  split at h
  · obtain ⟨ys, rfl, hys⟩ := exists_items_of_blind hr
    obtain ⟨inside, hinside, hitems⟩ := bind_eq_ok_iff.1 h
    exact bind_eq_ok_iff.2 ⟨inside, hinside, hd.items hys hitems⟩
  · cases h

theorem Blind.of (hd : d.Blind) (name : String) (put : ρ → α → ρ) :
    (Field.of name d put).Blind := by
  intro scope r r' s t hr h
  obtain ⟨a, ha, rfl⟩ := map_eq_ok_iff.1 h
  exact map_eq_ok_iff.2 ⟨a, hd scope r r' a hr ha, rfl⟩

variable {fields : List (Field ρ)}

theorem blind_readEntries (hf : ∀ f ∈ fields, f.Blind) {scope : Scope} {seen : List String}
    {s t : ρ} {es fs : List (Option String × Raw)}
    (hes : Raw.blindEntries es = Raw.blindEntries fs)
    (h : readEntries fields scope seen s es = .ok t) :
    readEntries fields scope seen s fs = .ok t := by
  induction es generalizing seen s fs with
  | nil =>
    cases fs with
    | nil => exact h
    | cons f fs => simp [Raw.blindEntries] at hes
  | cons e es ih =>
    obtain ⟨k, x⟩ := e
    obtain ⟨y, gs, rfl, hx, hrest⟩ := exists_cons_of_blindEntries hes
    cases k with
    | none => cases h
    | some k =>
      rw [readEntries] at h ⊢
      split
      · next hnone =>
        simp only [hnone] at h
        exact ih hrest h
      · next f hsome =>
        simp only [hsome] at h
        split
        · next hseen =>
          rw [if_pos hseen] at h
          cases h
        -- a field of the record: its reader is blind, and the rest is read alike
        · next hseen =>
          rw [if_neg hseen] at h
          split at h
          · cases h
          · next u hu =>
            have hread := hf f (List.mem_of_find?_eq_some hsome) scope x y s u hx hu
            simp only [hread]
            exact ih hrest h

theorem blind_readItems (hf : ∀ f ∈ fields, f.Blind) {scope : Scope} {count taken : Nat}
    {s t : ρ} {xs ys : List Raw} (hxs : Raw.blindItems xs = Raw.blindItems ys)
    (h : readItems scope count taken fields s xs = .ok t) :
    readItems scope count taken fields s ys = .ok t := by
  induction xs generalizing taken fields s ys with
  | nil =>
    cases ys with
    | nil => exact h
    | cons y ys => simp [Raw.blindItems] at hxs
  | cons x xs ih =>
    obtain ⟨y, zs, rfl, hx, hrest⟩ := exists_cons_of_blindItems hxs
    cases fields with
    | nil => cases h
    | cons f fields =>
      rw [readItems] at h ⊢
      split at h
      · cases h
      · next u hu =>
        simp only [hf f List.mem_cons_self scope x y s u hx hu]
        exact ih (fun g hg => hf g (List.mem_cons_of_mem f hg)) hrest h

/-- **A record is read blindly if its fields are.** -/
theorem blind_record (name : String) (start : ρ) (hf : ∀ f ∈ fields, f.Blind) :
    (record name fields start).Blind := by
  intro scope r r' a hr h
  unfold record at h
  split at h
  · obtain ⟨fs, rfl, hfs⟩ := exists_entries_of_blind hr
    obtain ⟨inside, hinside, hread⟩ := bind_eq_ok_iff.1 h
    exact bind_eq_ok_iff.2 ⟨inside, hinside, blind_readEntries hf hfs hread⟩
  · next xs =>
    obtain ⟨ys, rfl, hys⟩ := exists_items_of_blind hr
    have hlength : xs.length = ys.length := by
      simpa [blindItems_eq_map] using congrArg List.length hys
    obtain ⟨inside, hinside, hread⟩ := bind_eq_ok_iff.1 h
    exact bind_eq_ok_iff.2 ⟨inside, hinside, hlength ▸ blind_readItems hf hys hread⟩
  · cases h

end Decoder

/-! ## The readers of connections and branches -/

open Decoder

theorem blind_connection : Source.Connection.decoder.Blind := by
  refine blind_record _ _ fun f hf => ?_
  simp only [List.mem_cons, List.not_mem_nil, or_false] at hf
  rcases hf with rfl | rfl | rfl | rfl
  · exact blind_text.of "id" _
  · exact blind_text.option.of "prompt" _
  · exact blind_text.option.of _ _
  · exact blind_text.option.of _ _

theorem blind_branch : Step.Branch.decoder.Blind := by
  refine blind_record _ _ fun f hf => ?_
  simp only [List.mem_cons, List.not_mem_nil, or_false] at hf
  rcases hf with rfl | rfl | rfl | rfl | rfl
  · exact blind_text.of _ _
  · exact blind_text.of _ _
  · exact blind_text.option.of _ _
  · exact blind_bool.of _ _
  · exact blind_text.option.of _ _

/-! ## Configurations before and after a round trip -/

variable {es fs : Entries}

/-- **Entries that differ in numbers only** have the same keys, and under
each of them values that differ in numbers only. -/
def Alike (es fs : Entries) : Prop :=
  Raw.blindEntries (Raw.ofEntries es) = Raw.blindEntries (Raw.ofEntries fs)

theorem Alike.symm (h : Alike es fs) : Alike fs es :=
  Eq.symm h

theorem Alike.find? (h : Alike es fs) (key : String) :
    (es.find? key).map (fun j => (Raw.ofJson j).blind) =
      (fs.find? key).map fun j => (Raw.ofJson j).blind := by
  induction es generalizing fs with
  | nil =>
    cases fs with
    | nil => rfl
    | cons f fs => simp [Alike, Raw.ofEntries, Raw.blindEntries] at h
  | cons e es ih =>
    cases fs with
    | nil => simp [Alike, Raw.ofEntries, Raw.blindEntries] at h
    | cons f fs =>
      obtain ⟨k, x⟩ := e
      obtain ⟨l, y⟩ := f
      obtain ⟨hhead, htail⟩ := List.cons.inj h
      obtain ⟨hk, hx⟩ := Prod.mk.inj hhead
      obtain rfl := Option.some.inj hk
      rw [Entries.find?, Entries.find?]
      split
      · exact congrArg some hx
      · exact ih htail

end Json

namespace NodeConfig

open Json (Raw)

variable {c c' : NodeConfig} {key : String}

/-- A sequence stands under a key of both configurations or of none, with
items that differ in numbers only. -/
theorem array?_of_alike (h : Json.Alike c.entries c'.entries) {xs? : Option (List Json)}
    (hxs : c.array? key = .ok xs?) :
    ∃ ys?, c'.array? key = .ok ys? ∧
      xs?.map (fun xs => Raw.blindItems (Raw.ofItems xs)) =
        ys?.map fun ys => Raw.blindItems (Raw.ofItems ys) := by
  have hfind := h.find? key
  unfold array? get? at hxs ⊢
  generalize c.entries.find? key = x? at hfind hxs
  generalize c'.entries.find? key = y? at hfind
  cases x? with
  | none =>
    obtain rfl : y? = none := by simpa using hfind.symm
    obtain rfl := Except.ok.inj hxs
    exact ⟨none, rfl, rfl⟩
  | some x =>
    obtain ⟨y, rfl, hy⟩ : ∃ y, y? = some y ∧ (Raw.ofJson y).blind = (Raw.ofJson x).blind := by
      simpa using hfind.symm
    cases x with
    | null =>
      obtain rfl : y = .null := by cases y <;> simp_all [Raw.ofJson, Raw.blind]
      obtain rfl := Except.ok.inj hxs
      exact ⟨none, rfl, rfl⟩
    | array xs =>
      obtain ⟨ys, rfl, hys⟩ : ∃ ys, y = .array ys ∧
          Raw.blindItems (Raw.ofItems ys) = Raw.blindItems (Raw.ofItems xs) := by
        cases y <;> simp_all [Raw.ofJson, Raw.blind]
      obtain rfl := Except.ok.inj hxs
      exact ⟨some ys, rfl, congrArg some hys.symm⟩
    | bool | number | string | object => cases hxs

end NodeConfig

namespace Step.Branch

open Json (Raw Decoder)

variable {α : Type} {d : Decoder α} {c c' : NodeConfig} {key : String}

/-- **A blind reader reads the same from both configurations.** -/
theorem readList?_of_alike (hd : d.Blind) (h : Json.Alike c.entries c'.entries)
    {values? : Option (List α)} (hr : readList? c key d = .ok values?) :
    readList? c' key d = .ok values? := by
  unfold readList? at hr ⊢
  split at hr
  · cases hr
  · next hxs =>
    obtain ⟨ys?, hys, hmap⟩ := NodeConfig.array?_of_alike h hxs
    obtain rfl : ys? = none := by simpa using hmap.symm
    simpa only [hys] using hr
  · next xs hxs =>
    obtain ⟨ys?, hys, hmap⟩ := NodeConfig.array?_of_alike h hxs
    obtain ⟨ys, rfl, hitems⟩ : ∃ ys, ys? = some ys ∧
        Raw.blindItems (Raw.ofItems ys) = Raw.blindItems (Raw.ofItems xs) := by
      simpa using hmap.symm
    split at hr
    · next values hvalues =>
      have hread : Decoder.ofJson (.list d) (.array ys) = .ok values :=
        hd.list {} (Raw.ofJson (.array xs)) (Raw.ofJson (.array ys)) values
          (congrArg Raw.array hitems.symm) hvalues
      simpa only [hys, hread] using hr
    · cases hr

end Step.Branch

end Flowchart
