import Flowchart.Proofs.Json.Entries
import Flowchart.Proofs.Json.Written

/-!
# Documents after a round trip

A document that was read has no key twice in one object (`Keyed`,
`keyed_of_toJson?`). Written in one line and read again, such a document
is the same but for its numbers (`ofJson_of_reread`).
-/

namespace Flowchart

namespace Json

variable {levels : Nat}

/-! ## Induction over documents -/

/-- **The induction over a document**: for a sequence over its items, for
an object over the values under its keys. -/
@[elab_as_elim] theorem induction {P : Json → Prop} (null : P .null) (bool : ∀ b, P (.bool b))
    (number : ∀ n, P (.number n)) (string : ∀ s, P (.string s))
    (array : ∀ xs, (∀ x ∈ xs, P x) → P (.array xs))
    (object : ∀ es, (∀ e ∈ es, P e.2) → P (.object es)) (j : Json) : P j :=
  @Json.rec P (fun xs => ∀ x ∈ xs, P x) (fun es => ∀ e ∈ es, P e.2) (fun e => P e.2)
    null bool number string array object
    (fun _ hx => absurd hx List.not_mem_nil)
    (fun _ _ hx hxs => List.forall_mem_cons.2 ⟨hx, hxs⟩)
    (fun _ he => absurd he List.not_mem_nil)
    (fun _ _ he hes => List.forall_mem_cons.2 ⟨he, hes⟩)
    (fun _ _ h => h) j

/-- The same over a written form. -/
@[elab_as_elim] theorem Raw.induction {P : Raw → Prop} (null : P .null) (bool : ∀ b, P (.bool b))
    (number : ∀ n, P (.number n)) (string : ∀ s, P (.string s))
    (array : ∀ xs, (∀ x ∈ xs, P x) → P (.array xs))
    (object : ∀ es, (∀ e ∈ es, P e.2) → P (.object es)) (raw : Raw) : P raw :=
  @Raw.rec P (fun xs => ∀ x ∈ xs, P x) (fun es => ∀ e ∈ es, P e.2) (fun e => P e.2)
    null bool number string array object
    (fun _ hx => absurd hx List.not_mem_nil)
    (fun _ _ hx hxs => List.forall_mem_cons.2 ⟨hx, hxs⟩)
    (fun _ he => absurd he List.not_mem_nil)
    (fun _ _ he hes => List.forall_mem_cons.2 ⟨he, hes⟩)
    (fun _ _ h => h) raw

/-! ## Keys -/

mutual

/-- **No object of the document has a key twice.** -/
def Keyed : Json → Prop
  | .array xs => KeyedItems xs
  | .object es => Entries.Distinct es ∧ KeyedEntries es
  | .null | .bool _ | .number _ | .string _ => True

/-- No object of the items has a key twice. -/
def KeyedItems : List Json → Prop
  | [] => True
  | x :: xs => x.Keyed ∧ KeyedItems xs

/-- No object under the keys has a key twice. -/
def KeyedEntries : List (String × Json) → Prop
  | [] => True
  | (_, x) :: es => x.Keyed ∧ KeyedEntries es

end

theorem keyedItems_iff {xs : List Json} : KeyedItems xs ↔ ∀ x ∈ xs, x.Keyed := by
  induction xs with
  | nil => simp [KeyedItems]
  | cons x xs ih => simp [KeyedItems, ih]

theorem keyedEntries_iff {es : List (String × Json)} :
    KeyedEntries es ↔ ∀ e ∈ es, e.2.Keyed := by
  induction es with
  | nil => simp [KeyedEntries]
  | cons e es ih => simp [KeyedEntries, ih]

/-- What is read of a sequence is read of its items. -/
theorem exists_of_toItems? {raws : List Raw} {xs : List Json}
    (h : Raw.toItems? levels raws = some xs) :
    ∀ x ∈ xs, ∃ raw ∈ raws, raw.toJson? levels = some x := by
  induction raws generalizing xs with
  | nil =>
    obtain rfl := Option.some.inj h
    exact fun x hx => absurd hx List.not_mem_nil
  | cons raw raws ih =>
    rw [Raw.toItems?] at h
    split at h
    · next y ys hy hys =>
      obtain rfl := Option.some.inj h
      intro x hx
      rcases List.mem_cons.1 hx with rfl | hx
      · exact ⟨raw, List.mem_cons_self, hy⟩
      · obtain ⟨r, hr, hrx⟩ := ih hys x hx
        exact ⟨r, List.mem_cons_of_mem raw hr, hrx⟩
    · cases h

/-- What is read of entries is read of their values. -/
theorem exists_of_toEntries? {raws : List (Option String × Raw)} {es : List (String × Json)}
    (h : Raw.toEntries? levels raws = some es) :
    ∀ e ∈ es, ∃ raw ∈ raws, raw.2.toJson? levels = some e.2 := by
  induction raws generalizing es with
  | nil =>
    obtain rfl := Option.some.inj h
    exact fun e he => absurd he List.not_mem_nil
  | cons raw raws ih =>
    simp only [Raw.toEntries?] at h
    split at h
    · next k y ys _ hy hys =>
      obtain rfl := Option.some.inj h
      intro e he
      rcases List.mem_cons.1 he with rfl | he
      · exact ⟨raw, List.mem_cons_self, hy⟩
      · obtain ⟨r, hr, hre⟩ := ih hys e he
        exact ⟨r, List.mem_cons_of_mem raw hr, hre⟩
    · cases h

/-- **A document that was read has no key twice in one object.** -/
theorem keyed_of_toJson? {raw : Raw} {j : Json} (h : raw.toJson? levels = some j) : j.Keyed := by
  induction raw using Raw.induction generalizing levels j with
  | null =>
    obtain rfl := Option.some.inj h
    trivial
  | bool b =>
    obtain rfl := Option.some.inj h
    trivial
  | number n =>
    obtain ⟨m, -, rfl⟩ := Option.map_eq_some_iff.1 h
    trivial
  | string s =>
    obtain ⟨t, -, rfl⟩ := Option.map_eq_some_iff.1 h
    trivial
  | array raws ih =>
    rw [Raw.toJson?] at h
    split at h
    · cases h
    · obtain ⟨xs, hxs, rfl⟩ := Option.map_eq_some_iff.1 h
      refine keyedItems_iff.2 fun x hx => ?_
      obtain ⟨raw, hraw, hx⟩ := exists_of_toItems? hxs x hx
      exact ih raw hraw hx
  | object raws ih =>
    rw [Raw.toJson?] at h
    split at h
    · cases h
    · obtain ⟨es, hes, rfl⟩ := Option.map_eq_some_iff.1 h
      refine ⟨Entries.distinct_ofList es, keyedEntries_iff.2 fun e he => ?_⟩
      obtain ⟨raw, hraw, he⟩ := exists_of_toEntries? hes e (Entries.mem_of_mem_ofList he)
      exact ih raw hraw he

/-- **A text is read as a document without a repeated key.** -/
theorem keyed_of_ofText? {text : String} {j : Json} (h : ofText? text = some j) : j.Keyed := by
  obtain ⟨raw, -, hraw⟩ := Option.bind_eq_some_iff.1 h
  exact keyed_of_toJson? hraw

/-! ## Reading what was written -/

theorem ofItems_of_reread {xs ys : List Json}
    (ih : ∀ x ∈ xs, ∀ y, (Raw.reread x).toJson? levels = some y → Raw.ofJson y = Raw.reread x)
    (h : Raw.toItems? levels (Raw.rereadItems xs) = some ys) :
    Raw.ofItems ys = Raw.rereadItems xs := by
  induction xs generalizing ys with
  | nil =>
    obtain rfl := Option.some.inj h
    rfl
  | cons x xs ihxs =>
    rw [Raw.rereadItems, Raw.toItems?] at h
    split at h
    · next y ys hy hys =>
      obtain rfl := Option.some.inj h
      rw [Raw.ofItems, Raw.rereadItems, ih x List.mem_cons_self y hy,
        ihxs (fun z hz => ih z (List.mem_cons_of_mem x hz)) hys]
    · cases h

/-- Entries that are read keep their keys. -/
theorem ofEntries_of_reread {es fs : List (String × Json)}
    (ih : ∀ e ∈ es, ∀ y, (Raw.reread e.2).toJson? levels = some y →
      Raw.ofJson y = Raw.reread e.2)
    (h : Raw.toEntries? levels (Raw.rereadEntries es) = some fs) :
    Raw.ofEntries fs = Raw.rereadEntries es ∧ Entries.keys fs = Entries.keys es := by
  induction es generalizing fs with
  | nil =>
    obtain rfl := Option.some.inj h
    exact ⟨rfl, rfl⟩
  | cons e es ihes =>
    simp only [Raw.rereadEntries, Raw.toEntries?] at h
    split at h
    · next k y ys hk hy hys =>
      obtain rfl := Option.some.inj h
      obtain rfl := Option.some.inj hk
      obtain ⟨hentries, hkeys⟩ := ihes (fun z hz => ih z (List.mem_cons_of_mem e hz)) hys
      rw [Raw.ofEntries, Raw.rereadEntries, ih e List.mem_cons_self y hy, hentries]
      exact ⟨rfl, congrArg (e.1 :: ·) hkeys⟩
    · cases h

/-- **A document without a repeated key is read back with its written
form**, if it is read back at all. -/
theorem ofJson_of_reread {j j' : Json} (hj : j.Keyed)
    (h : (Raw.reread j).toJson? levels = some j') : Raw.ofJson j' = Raw.reread j := by
  induction j using induction generalizing levels j' with
  | null =>
    obtain rfl := Option.some.inj h
    rfl
  | bool b =>
    obtain rfl := Option.some.inj h
    rfl
  | number n =>
    obtain ⟨m, hm, rfl⟩ := Option.map_eq_some_iff.1 h
    rw [Raw.ofJson, Raw.reread, hm]
  | string s =>
    obtain rfl := Option.some.inj h
    rfl
  | array xs ih =>
    rw [Raw.reread, Raw.toJson?] at h
    split at h
    · cases h
    · obtain ⟨ys, hys, rfl⟩ := Option.map_eq_some_iff.1 h
      have hitems := keyedItems_iff.1 hj
      rw [Raw.ofJson, Raw.reread,
        ofItems_of_reread (fun x hx y hy => ih x hx (hitems x hx) hy) hys]
  | object es ih =>
    rw [Raw.reread, Raw.toJson?] at h
    split at h
    · cases h
    · obtain ⟨fs, hfs, rfl⟩ := Option.map_eq_some_iff.1 h
      have hvalues := keyedEntries_iff.1 hj.2
      obtain ⟨hentries, hkeys⟩ :=
        ofEntries_of_reread (fun e he y hy => ih e he (hvalues e he) hy) hfs
      -- the keys are those of the document, so collecting the entries loses none
      have hdistinct : Entries.Distinct fs := by
        rw [Entries.Distinct, hkeys]
        exact hj.1
      rw [Raw.ofJson, Raw.reread, Entries.ofList_of_distinct hdistinct, hentries]

/-- **What one line reads back as**, if it is read back at all. -/
theorem ofJson_of_ofText?_compact {j j' : Json} (hj : j.Keyed)
    (h : ofText? j.compact = some j') : Raw.ofJson j' = Raw.reread j := by
  rw [ofText?, ofText?_compact, Option.bind_some] at h
  exact ofJson_of_reread hj h

end Json

end Flowchart
