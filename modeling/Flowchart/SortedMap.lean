/-!
# Maps in key order

A map from texts to values, kept as the list of its entries in strictly ascending order of their
keys, by code point. The order is part of the type, so two maps with the same look-ups are equal
(`ext_find?`), and to walk a map is to walk it in key order.
-/

namespace Flowchart

/-- A map from texts, its entries in ascending order of the keys. -/
structure SortedMap (α : Type) where
  /-- The entries, in order. -/
  entries : List (String × α)
  /-- Every key is below the keys after it. -/
  sorted : entries.Pairwise (fun a b => a.1 < b.1) := by simp
deriving DecidableEq

namespace SortedMap

variable {α : Type}

/-- The map without entries. -/
def empty : SortedMap α where
  entries := []

instance : Inhabited (SortedMap α) := ⟨empty⟩
instance : EmptyCollection (SortedMap α) := ⟨empty⟩

/-- The value under a key of a list of entries. -/
def findIn? (key : String) : List (String × α) → Option α
  | [] => none
  | (k, v) :: es => if k = key then some v else findIn? key es

/-- The value under a key. -/
def find? (m : SortedMap α) (key : String) : Option α :=
  findIn? key m.entries

/-- Puts an entry at its place, or in the place of an entry with its key. -/
def insertIn (key : String) (value : α) : List (String × α) → List (String × α)
  | [] => [(key, value)]
  | (k, v) :: es =>
    if key < k then (key, value) :: (k, v) :: es
    else if key = k then (key, value) :: es
    else (k, v) :: insertIn key value es

theorem mem_insertIn {key : String} {value : α} {es : List (String × α)} {e : String × α}
    (h : e ∈ insertIn key value es) : e = (key, value) ∨ e ∈ es := by
  induction es with
  | nil => simpa [insertIn] using h
  | cons x es ih =>
    obtain ⟨k, v⟩ := x
    simp only [insertIn] at h
    split at h
    · simpa using h
    · split at h <;> simp only [List.mem_cons] at h ⊢ <;> rcases h with h | h
      · exact .inl h
      · exact .inr (.inr h)
      · exact .inr (.inl h)
      · exact (ih h).imp id .inr

theorem sorted_insertIn {key : String} {value : α} {es : List (String × α)}
    (h : es.Pairwise (fun a b => a.1 < b.1)) :
    (insertIn key value es).Pairwise (fun a b => a.1 < b.1) := by
  induction es with
  | nil => simp [insertIn]
  | cons x es ih =>
    obtain ⟨k, v⟩ := x
    rw [List.pairwise_cons] at h
    simp only [insertIn]
    split
    · next hk =>
      refine List.pairwise_cons.2 ⟨fun e he => ?_, List.pairwise_cons.2 h⟩
      rcases List.mem_cons.1 he with rfl | he
      · exact hk
      · exact String.lt_trans hk (h.1 e he)
    · next hk =>
      split
      · next he => subst he; exact List.pairwise_cons.2 h
      · next he =>
        refine List.pairwise_cons.2 ⟨fun e hm => ?_, ih h.2⟩
        rcases mem_insertIn hm with rfl | hm
        · exact Std.lt_of_le_of_ne (String.not_lt.1 hk) (Ne.symm he)
        · exact h.1 e hm

/-- Puts a value under a key, in place of what was there. -/
def insert (m : SortedMap α) (key : String) (value : α) : SortedMap α where
  entries := insertIn key value m.entries
  sorted := sorted_insertIn m.sorted

/-- Takes the entry of a key out. -/
def erase (m : SortedMap α) (key : String) : SortedMap α where
  entries := m.entries.filter (·.1 ≠ key)
  sorted := m.sorted.filter _

/-- The map of a list of entries; of a repeated key the last value remains. -/
def ofList (es : List (String × α)) : SortedMap α :=
  es.foldl (fun m e => m.insert e.1 e.2) empty

/-- The entries of `updates` laid over the map: they win over what was there. -/
def overlay (m updates : SortedMap α) : SortedMap α :=
  updates.entries.foldl (fun m e => m.insert e.1 e.2) m

/-- The keys, in order. -/
def keys (m : SortedMap α) : List String :=
  m.entries.map (·.1)

/-- How many entries there are. -/
def size (m : SortedMap α) : Nat :=
  m.entries.length

/-! ## Laws -/

@[simp] theorem find?_empty (key : String) : (empty : SortedMap α).find? key = none := rfl

theorem mem_of_findIn?_eq_some {key : String} {value : α} {es : List (String × α)}
    (h : findIn? key es = some value) : (key, value) ∈ es := by
  induction es with
  | nil => cases h
  | cons e es ih =>
    rw [findIn?] at h
    split at h
    · next hk =>
      obtain rfl := Option.some.inj h
      exact hk ▸ List.mem_cons_self
    · exact List.mem_cons_of_mem e (ih h)

/-- **What is found is an entry.** -/
theorem mem_of_find?_eq_some {m : SortedMap α} {key : String} {value : α}
    (h : m.find? key = some value) : (key, value) ∈ m.entries :=
  mem_of_findIn?_eq_some h

theorem findIn?_insertIn {key k : String} {value : α} {es : List (String × α)} :
    findIn? k (insertIn key value es) = if key = k then some value else findIn? k es := by
  induction es with
  | nil => simp [insertIn, findIn?]
  | cons e es ih =>
    obtain ⟨l, v⟩ := e
    simp only [insertIn]
    split
    · by_cases h : key = k <;> simp [findIn?, h]
    · split
      · next h =>
        subst h
        by_cases hk : key = k <;> simp [findIn?, hk]
      · next h =>
        by_cases hk : l = k
        · subst hk; simp [findIn?, h]
        · simp [findIn?, hk, ih]

theorem find?_insert (m : SortedMap α) (key k : String) (value : α) :
    (m.insert key value).find? k = if key = k then some value else m.find? k :=
  findIn?_insertIn

theorem findIn?_eq_none_of_lt {key : String} {es : List (String × α)}
    (h : ∀ e ∈ es, key < e.1) : findIn? key es = none := by
  induction es with
  | nil => rfl
  | cons e es ih =>
    have hne : e.1 ≠ key := fun he => String.lt_irrefl _ (he ▸ h e (List.mem_cons_self ..))
    obtain ⟨k, v⟩ := e
    simp only [findIn?]
    rw [if_neg hne, ih fun e he => h e (List.mem_cons_of_mem _ he)]

theorem entries_eq_of_findIn? {xs ys : List (String × α)}
    (hx : xs.Pairwise (fun a b => a.1 < b.1)) (hy : ys.Pairwise (fun a b => a.1 < b.1))
    (h : ∀ k, findIn? k xs = findIn? k ys) : xs = ys := by
  induction xs generalizing ys with
  | nil =>
    cases ys with
    | nil => rfl
    | cons y ys => have := h y.1; simp [findIn?] at this
  | cons x xs ih =>
    cases ys with
    | nil => have := h x.1; simp [findIn?] at this
    | cons y ys =>
      obtain ⟨k, v⟩ := x
      obtain ⟨l, w⟩ := y
      rw [List.pairwise_cons] at hx hy
      have hkl : k = l := by
        rcases Std.lt_trichotomy k l with hlt | heq | hgt
        · have hn : findIn? k ((l, w) :: ys) = none := findIn?_eq_none_of_lt fun e he => by
            rcases List.mem_cons.1 he with rfl | he
            · exact hlt
            · exact String.lt_trans hlt (hy.1 e he)
          rw [← h k] at hn
          simp [findIn?] at hn
        · exact heq
        · have hn : findIn? l ((k, v) :: xs) = none := findIn?_eq_none_of_lt fun e he => by
            rcases List.mem_cons.1 he with rfl | he
            · exact hgt
            · exact String.lt_trans hgt (hx.1 e he)
          rw [h l] at hn
          simp [findIn?] at hn
      subst hkl
      have hvw : v = w := by have := h k; simpa [findIn?] using this
      subst hvw
      refine congrArg _ (ih hx.2 hy.2 fun j => ?_)
      by_cases hj : k = j
      · subst hj
        rw [findIn?_eq_none_of_lt hx.1, findIn?_eq_none_of_lt hy.1]
      · have := h j
        simpa [findIn?, hj] using this

theorem findIn?_eq_none {key : String} {es : List (String × α)} (h : key ∉ es.map (·.1)) :
    findIn? key es = none := by
  induction es with
  | nil => rfl
  | cons e es ih =>
    obtain ⟨hne, hrest⟩ : key ≠ e.1 ∧ key ∉ es.map (·.1) := by simpa using h
    rw [findIn?, if_neg hne.symm, ih hrest]

/-- The keys of a map are distinct. -/
theorem nodup_keys (m : SortedMap α) : (m.entries.map (·.1)).Nodup := by
  refine List.pairwise_map.2 (m.sorted.imp fun {a b} h heq => ?_)
  exact String.lt_irrefl b.1 (heq ▸ h)

/-- Entries with distinct keys are put in: each of them is found, and elsewhere nothing changes. -/
theorem find?_foldl_insert {es : List (String × α)} (h : (es.map (·.1)).Nodup) (m : SortedMap α)
    (key : String) :
    (es.foldl (fun m e => m.insert e.1 e.2) m).find? key = (findIn? key es).or (m.find? key) := by
  induction es generalizing m with
  | nil => rfl
  | cons e es ih =>
    obtain ⟨hnot, hrest⟩ := List.nodup_cons.1 h
    rw [List.foldl_cons, ih hrest, find?_insert, findIn?]
    by_cases hk : e.1 = key
    · rw [if_pos hk, if_pos hk, findIn?_eq_none (hk ▸ hnot), Option.none_or, Option.some_or]
    · rw [if_neg hk, if_neg hk]

/-- Entries that are put in are all that is added. -/
theorem mem_of_mem_foldl_insert {es : List (String × α)} {m : SortedMap α} {e : String × α}
    (h : e ∈ (es.foldl (fun m e => m.insert e.1 e.2) m).entries) : e ∈ m.entries ∨ e ∈ es := by
  induction es generalizing m with
  | nil => exact .inl h
  | cons x es ih =>
    rcases ih h with h | h
    · exact (mem_insertIn h).elim (fun he => .inr (he ▸ List.mem_cons_self)) .inl
    · exact .inr (List.mem_cons_of_mem x h)

/-- A map is collected from entries: it has no others. -/
theorem mem_of_mem_ofList {es : List (String × α)} {e : String × α}
    (h : e ∈ (ofList es).entries) : e ∈ es :=
  (mem_of_mem_foldl_insert h).resolve_left List.not_mem_nil

/-- The values of `updates` win over those that were there. -/
theorem find?_overlay (m updates : SortedMap α) (key : String) :
    (m.overlay updates).find? key = (updates.find? key).or (m.find? key) :=
  find?_foldl_insert updates.nodup_keys m key

/-- Maps with the same look-ups are equal. -/
theorem ext_find? {m n : SortedMap α} (h : ∀ k, m.find? k = n.find? k) : m = n := by
  obtain ⟨xs, hx⟩ := m
  obtain ⟨ys, hy⟩ := n
  have := entries_eq_of_findIn? hx hy h
  subst this
  rfl

/-- A map of entries none of which has a key holds nothing under it. -/
theorem find?_ofList_eq_none {es : List (String × α)} {key : String} (h : ∀ e ∈ es, e.1 ≠ key) :
    (ofList es).find? key = none := by
  suffices all : ∀ m : SortedMap α, m.find? key = none →
      (es.foldl (fun m e => m.insert e.1 e.2) m).find? key = none from all empty rfl
  induction es with
  | nil => exact fun m hm => hm
  | cons e es ih =>
    intro m hm
    obtain ⟨hne, hrest⟩ := List.forall_mem_cons.1 h
    refine ih hrest (m.insert e.1 e.2) ?_
    rw [find?_insert, if_neg hne, hm]

/-- **A map is looked up in the entries that it is collected from**, if their keys are distinct. -/
theorem find?_ofList {es : List (String × α)} (h : (es.map (·.1)).Nodup) (key : String) :
    (ofList es).find? key = findIn? key es := by
  rw [ofList, find?_foldl_insert h, find?_empty, Option.or_none]

/-- A map is collected from its own entries. -/
theorem ofList_entries (m : SortedMap α) : ofList m.entries = m :=
  ext_find? (find?_ofList m.nodup_keys)

end SortedMap

end Flowchart
