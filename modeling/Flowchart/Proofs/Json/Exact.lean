import Flowchart.Proofs.Json.Reread

/-!
# Documents that survive a round trip

What may change when a document is written in one line and read again is
a number, or all of it when it is nested too deeply. A document whose
numbers are read as they are written (`Exact`) and whose nesting is
within the limit of the reader is the same afterwards
(`ofText?_compact_of_exact`). A document that was read is within the
limit (`depth_le_of_ofText?`).
-/

namespace Flowchart

namespace Json

variable {levels : Nat} {j : Json}

/-! ## Depth -/

mutual

/-- **How many sequences and objects stand inside one another.** -/
def depth : Json → Nat
  | .array xs => depthItems xs + 1
  | .object es => depthEntries es + 1
  | .null | .bool _ | .number _ | .string _ => 0

/-- The depth of the deepest item. -/
def depthItems : List Json → Nat
  | [] => 0
  | x :: xs => max x.depth (depthItems xs)

/-- The depth of the deepest value. -/
def depthEntries : List (String × Json) → Nat
  | [] => 0
  | (_, x) :: es => max x.depth (depthEntries es)

end

theorem depthItems_le_iff {xs : List Json} :
    depthItems xs ≤ levels ↔ ∀ x ∈ xs, x.depth ≤ levels := by
  induction xs with
  | nil => simp [depthItems]
  | cons x xs ih => rw [depthItems, Nat.max_le, ih, List.forall_mem_cons]

theorem depthEntries_le_iff {es : Entries} :
    depthEntries es ≤ levels ↔ ∀ e ∈ es, e.2.depth ≤ levels := by
  induction es with
  | nil => simp [depthEntries]
  | cons e es ih => rw [depthEntries, Nat.max_le, ih, List.forall_mem_cons]

/-- **What was read is not nested deeper than the reader allows.** -/
theorem depth_le_of_toJson? {raw : Raw} (h : raw.toJson? levels = some j) : j.depth ≤ levels := by
  induction raw using Raw.induction generalizing levels j with
  | null =>
    obtain rfl := Option.some.inj h
    exact Nat.zero_le _
  | bool b =>
    obtain rfl := Option.some.inj h
    exact Nat.zero_le _
  | number n =>
    obtain ⟨m, -, rfl⟩ := Option.map_eq_some_iff.1 h
    exact Nat.zero_le _
  | string s =>
    obtain ⟨t, -, rfl⟩ := Option.map_eq_some_iff.1 h
    exact Nat.zero_le _
  | array raws ih =>
    rw [Raw.toJson?] at h
    split at h
    · cases h
    · next hlevels =>
      obtain ⟨xs, hxs, rfl⟩ := Option.map_eq_some_iff.1 h
      have hitems : depthItems xs ≤ levels - 1 := depthItems_le_iff.2 fun x hx => by
        obtain ⟨raw, hraw, hx⟩ := exists_of_toItems? hxs x hx
        exact ih raw hraw hx
      rw [depth]
      omega
  | object raws ih =>
    rw [Raw.toJson?] at h
    split at h
    · cases h
    · next hlevels =>
      obtain ⟨es, hes, rfl⟩ := Option.map_eq_some_iff.1 h
      have hentries : depthEntries (Entries.ofList es) ≤ levels - 1 :=
        depthEntries_le_iff.2 fun e he => by
          obtain ⟨raw, hraw, he⟩ := exists_of_toEntries? hes e (Entries.mem_of_mem_ofList he)
          exact ih raw hraw he
      rw [depth]
      omega

theorem depth_le_of_ofText? {text : String} (h : ofText? text = some j) :
    j.depth ≤ depthLimit := by
  obtain ⟨raw, -, hraw⟩ := Option.bind_eq_some_iff.1 h
  exact depth_le_of_toJson? hraw

/-- The values of an object are less deep than the object. -/
theorem depth_le_of_mem {es : Entries} (h : (object es).depth ≤ levels + 1) :
    ∀ e ∈ es, e.2.depth ≤ levels := by
  rw [depth] at h
  exact depthEntries_le_iff.1 (by omega)

/-! ## Numbers -/

mutual

/-- The numbers of a document, in order. -/
def numbers : Json → List Number
  | .number n => [n]
  | .array xs => numbersItems xs
  | .object es => numbersEntries es
  | .null | .bool _ | .string _ => []

/-- The numbers of the items. -/
def numbersItems : List Json → List Number
  | [] => []
  | x :: xs => x.numbers ++ numbersItems xs

/-- The numbers of the values. -/
def numbersEntries : List (String × Json) → List Number
  | [] => []
  | (_, x) :: es => x.numbers ++ numbersEntries es

end

/-- **Every number of the document is read as it is written.** -/
def Exact (j : Json) : Prop :=
  ∀ x ∈ j.numbers, x.reread? = some x

instance (j : Json) : Decidable j.Exact :=
  inferInstanceAs (Decidable (∀ x ∈ j.numbers, x.reread? = some x))

theorem exact_array_iff {xs : List Json} : (array xs).Exact ↔ ∀ x ∈ xs, x.Exact := by
  simp only [Exact, numbers]
  induction xs with
  | nil => simp [numbersItems]
  | cons x xs ih => simp [numbersItems, or_imp, forall_and, ih]

theorem exact_object_iff {es : Entries} : (object es).Exact ↔ ∀ e ∈ es, e.2.Exact := by
  simp only [Exact, numbers]
  induction es with
  | nil => simp [numbersEntries]
  | cons e es ih => simp [numbersEntries, or_imp, forall_and, ih]

/-! ## Round trips -/

theorem rereadItems_of_exact {xs : List Json}
    (h : ∀ x ∈ xs, Raw.reread x = Raw.ofJson x) : Raw.rereadItems xs = Raw.ofItems xs := by
  induction xs with
  | nil => rfl
  | cons x xs ih =>
    obtain ⟨hx, hxs⟩ := List.forall_mem_cons.1 h
    rw [Raw.rereadItems, Raw.ofItems, hx, ih hxs]

theorem rereadEntries_of_exact {es : Entries}
    (h : ∀ e ∈ es, Raw.reread e.2 = Raw.ofJson e.2) :
    Raw.rereadEntries es = Raw.ofEntries es := by
  induction es with
  | nil => rfl
  | cons e es ih =>
    obtain ⟨he, hes⟩ := List.forall_mem_cons.1 h
    rw [Raw.rereadEntries, Raw.ofEntries, he, ih hes]

/-- The written form of a document with exact numbers is the one that it
has. -/
theorem reread_of_exact (h : j.Exact) : Raw.reread j = Raw.ofJson j := by
  induction j using induction with
  | null | bool | string => rfl
  | number n => rw [Raw.reread, Raw.ofJson, h n List.mem_cons_self]
  | array xs ih =>
    rw [Raw.reread, Raw.ofJson,
      rereadItems_of_exact fun x hx => ih x hx (exact_array_iff.1 h x hx)]
  | object es ih =>
    rw [Raw.reread, Raw.ofJson,
      rereadEntries_of_exact fun e he => ih e he (exact_object_iff.1 h e he)]

theorem toItems?_ofItems {xs : List Json}
    (h : ∀ x ∈ xs, (Raw.ofJson x).toJson? levels = some x) :
    Raw.toItems? levels (Raw.ofItems xs) = some xs := by
  induction xs with
  | nil => rfl
  | cons x xs ih =>
    obtain ⟨hx, hxs⟩ := List.forall_mem_cons.1 h
    rw [Raw.ofItems, Raw.toItems?]
    simp only [hx, ih hxs]

theorem toEntries?_ofEntries {es : Entries}
    (h : ∀ e ∈ es, (Raw.ofJson e.2).toJson? levels = some e.2) :
    Raw.toEntries? levels (Raw.ofEntries es) = some es := by
  induction es with
  | nil => rfl
  | cons e es ih =>
    obtain ⟨he, hes⟩ := List.forall_mem_cons.1 h
    rw [Raw.ofEntries, Raw.toEntries?]
    · exact he
    · exact ih hes

/-- **A document is read from its written form**: no key of it is
repeated, and it is within the limit of the reader. -/
theorem toJson?_ofJson (hkeyed : j.Keyed) (hdepth : j.depth ≤ levels) :
    (Raw.ofJson j).toJson? levels = some j := by
  induction j using induction generalizing levels with
  | null | bool | number | string => rfl
  | array xs ih =>
    rw [depth] at hdepth
    have hitems := depthItems_le_iff.1 (Nat.le_sub_one_of_lt hdepth)
    rw [Raw.ofJson, Raw.toJson?, if_neg (by omega), toItems?_ofItems fun x hx =>
      ih x hx (keyedItems_iff.1 hkeyed x hx) (hitems x hx), Option.map_some]
  | object es ih =>
    rw [depth] at hdepth
    have hentries := depthEntries_le_iff.1 (Nat.le_sub_one_of_lt hdepth)
    rw [Raw.ofJson, Raw.toJson?, if_neg (by omega), toEntries?_ofEntries fun e he =>
      ih e he (keyedEntries_iff.1 hkeyed.2 e he) (hentries e he), Option.map_some,
      Entries.ofList_of_distinct hkeyed.1]

/-- **A document survives a round trip** through its text. -/
theorem ofText?_compact_of_exact (hkeyed : j.Keyed) (hdepth : j.depth ≤ depthLimit)
    (hexact : j.Exact) : ofText? j.compact = some j := by
  rw [ofText?, ofText?_compact, Option.bind_some, reread_of_exact hexact,
    toJson?_ofJson hkeyed hdepth]

end Json

end Flowchart
