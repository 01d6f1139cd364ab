import Flowchart.Json.Basic

/-!
# Entries of an object

Objects keep the order in which their keys first appeared. Putting a value under a key that is
already there changes it in place, so the keys stay distinct.
-/

namespace Flowchart

namespace Json

namespace Entries

/-- The keys, in order. -/
def keys (es : Entries) : List String :=
  es.map (·.1)

/-- No key occurs twice. -/
def Distinct (es : Entries) : Prop :=
  (keys es).Nodup

instance (es : Entries) : Decidable (Distinct es) :=
  inferInstanceAs (Decidable (List.Nodup _))

/-- The value under a key. -/
def find? (key : String) : Entries → Option Json
  | [] => none
  | (k, v) :: es => if k = key then some v else find? key es

/-- Puts a value under a key: in place when the key is there, at the end otherwise. -/
def insert (key : String) (value : Json) : Entries → Entries
  | [] => [(key, value)]
  | (k, v) :: es => if k = key then (k, value) :: es else (k, v) :: insert key value es

/-- Collects entries one by one: a repeated key keeps its first place and its last value. -/
def ofList (es : List (String × Json)) : Entries :=
  es.foldl (fun acc e => insert e.1 e.2 acc) []

/-- Takes the entry of a key out by moving the last entry into its place. -/
def removeSwapping (key : String) : Entries → Entries
  | [] => []
  | (k, v) :: es =>
    if k = key then
      match es.getLast? with
      | none => []
      | some last => last :: es.dropLast
    else (k, v) :: removeSwapping key es

/-! ## Laws -/

theorem mem_keys_insert {key k : String} {value : Json} {es : Entries} :
    k ∈ keys (insert key value es) ↔ k = key ∨ k ∈ keys es := by
  induction es with
  | nil => simp [insert, keys]
  | cons e es ih =>
    obtain ⟨l, v⟩ := e
    by_cases h : l = key
    · subst h; simp [insert, keys]
    · simp only [insert, h, if_false, keys, List.map_cons, List.mem_cons] at ih ⊢
      rw [ih]; constructor
      · rintro (h | h | h) <;> simp [h]
      · rintro (h | h | h) <;> simp [h]

theorem distinct_insert {key : String} {value : Json} {es : Entries} (h : Distinct es) :
    Distinct (insert key value es) := by
  induction es with
  | nil => simp [insert, Distinct, keys]
  | cons e es ih =>
    obtain ⟨l, v⟩ := e
    simp only [Distinct, keys, List.map_cons, List.nodup_cons] at h
    by_cases hl : l = key
    · subst hl; simpa [insert, Distinct, keys] using h
    · simp only [insert, hl, if_false, Distinct, keys, List.map_cons, List.nodup_cons]
      refine ⟨fun hm => ?_, ih h.2⟩
      rcases mem_keys_insert.1 hm with h' | h'
      · exact hl h'
      · exact h.1 h'

theorem distinct_ofList (es : List (String × Json)) : Distinct (ofList es) := by
  suffices h : ∀ acc : Entries, Distinct acc →
      Distinct (es.foldl (fun acc e => insert e.1 e.2 acc) acc) from h [] (by simp [Distinct, keys])
  induction es with
  | nil => exact fun _ h => h
  | cons e es ih => exact fun _ h => ih _ (distinct_insert h)

theorem find?_insert {key k : String} {value : Json} {es : Entries} :
    find? k (insert key value es) = if key = k then some value else find? k es := by
  induction es with
  | nil => simp [insert, find?]
  | cons e es ih =>
    obtain ⟨l, v⟩ := e
    by_cases hl : l = key
    · subst hl; by_cases hk : l = k <;> simp [insert, find?, hk]
    · by_cases hk : l = k
      · subst hk; simp [insert, find?, hl, Ne.symm hl]
      · simp [insert, find?, hl, hk, ih]

end Entries

end Json

end Flowchart
