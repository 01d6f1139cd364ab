import Flowchart.Json.Entries
import Mathlib.Data.List.Induction
import Mathlib.Data.List.Nodup
import Mathlib.Data.List.Perm.Basic

/-!
# Laws of entries

Entries with distinct keys are collected as they are
(`ofList_of_distinct`); of a repeated key the first place and the last
value remain (`keys_ofList`, `find?_ofList`). Taking an entry out leaves
the others (`removeSwapping_perm`), and a key that stands in one part only
is looked up there.
-/

namespace Flowchart

namespace Json

namespace Entries

variable {key : String} {value : Json} {es fs : Entries} {e : String × Json}

/-! ## Distinct keys -/

theorem Distinct.sublist (h : Distinct es) (hs : List.Sublist fs es) :
    Distinct fs :=
  List.Nodup.sublist (hs.map Prod.fst) h

theorem Distinct.perm (h : Distinct es) (hp : List.Perm es fs) : Distinct fs :=
  (hp.map Prod.fst).nodup_iff.1 h

/-! ## Collecting -/

theorem mem_of_mem_insert (h : e ∈ insert key value es) : e = (key, value) ∨ e ∈ es := by
  induction es with
  | nil => simpa [insert] using h
  | cons x es ih =>
    rw [insert] at h
    split at h
    · next hk =>
      rcases List.mem_cons.1 h with rfl | h
      · exact .inl (by rw [hk])
      · exact .inr (List.mem_cons_of_mem x h)
    · rcases List.mem_cons.1 h with rfl | h
      · exact .inr List.mem_cons_self
      · exact (ih h).imp_right (List.mem_cons_of_mem x)

/-- Collecting entries adds none. -/
theorem mem_of_mem_ofList {es : List (String × Json)} (h : e ∈ ofList es) : e ∈ es := by
  suffices all : ∀ acc : Entries, e ∈ es.foldl (fun acc e => insert e.1 e.2 acc) acc →
      e ∈ acc ∨ e ∈ es from (all [] h).resolve_left List.not_mem_nil
  clear h
  induction es with
  | nil => exact fun acc h => .inl h
  | cons x es ih =>
    intro acc h
    rcases ih _ h with h | h
    · rcases mem_of_mem_insert h with rfl | h
      · exact .inr List.mem_cons_self
      · exact .inl h
    · exact .inr (List.mem_cons_of_mem x h)

theorem insert_of_not_mem (h : key ∉ keys es) : insert key value es = es ++ [(key, value)] := by
  induction es with
  | nil => rfl
  | cons x es ih =>
    obtain ⟨hne, hrest⟩ : key ≠ x.1 ∧ key ∉ keys es := by simpa [keys] using h
    rw [insert, if_neg (Ne.symm hne), ih hrest]
    rfl

/-- **Entries with distinct keys are collected as they are.** -/
theorem ofList_of_distinct (h : Distinct es) : ofList es = es := by
  suffices all : ∀ acc : Entries, Distinct (acc ++ es) →
      es.foldl (fun acc e => insert e.1 e.2 acc) acc = acc ++ es from all [] h
  clear h
  induction es with
  | nil => exact fun acc _ => (List.append_nil acc).symm
  | cons x es ih =>
    intro acc hacc
    -- what was collected has none of the keys to come
    have fresh : x.1 ∉ keys acc := by
      intro hx
      rw [Distinct, keys, List.map_append, List.nodup_append] at hacc
      exact hacc.2.2 x.1 hx x.1 (by simp) rfl
    rw [List.foldl_cons, insert_of_not_mem fresh, ih _ (by simpa using hacc)]
    simp

theorem ofList_concat (es : Entries) (e : String × Json) :
    ofList (es ++ [e]) = insert e.1 e.2 (ofList es) := by
  rw [ofList, List.foldl_append]
  rfl

/-- A key that is there stays where it is. -/
theorem keys_insert_of_mem (h : key ∈ keys es) : keys (insert key value es) = keys es := by
  induction es with
  | nil => cases h
  | cons x es ih =>
    rw [insert]
    split
    · rfl
    · next hne =>
      have hrest : key ∈ keys es := (List.mem_cons.1 h).resolve_left (Ne.symm hne)
      exact congrArg (x.1 :: ·) (ih hrest)

/-- **A repeated key keeps its first place.** -/
theorem keys_ofList (es : Entries) : keys (ofList es) = (keys es).eraseDups := by
  induction es using List.reverseRecOn with
  | nil => rfl
  | append_singleton es e ih =>
    have hmem : e.1 ∈ keys (ofList es) ↔ e.1 ∈ keys es := by rw [ih, List.mem_eraseDups]
    have hkeys : keys (es ++ [e]) = keys es ++ [e.1] := List.map_append
    rw [ofList_concat, hkeys, List.eraseDups_append, ← ih]
    by_cases he : e.1 ∈ keys es
    · have hnone : [e.1].removeAll (keys es) = [] := by simp [List.removeAll, he]
      rw [keys_insert_of_mem (hmem.2 he), hnone]
      exact (List.append_nil _).symm
    · have hall : [e.1].removeAll (keys es) = [e.1] := by simp [List.removeAll, he]
      rw [insert_of_not_mem (mt hmem.1 he), hall]
      exact List.map_append

/-- **A repeated key has its last value.** -/
theorem find?_ofList (es : Entries) (key : String) :
    find? key (ofList es) = find? key es.reverse := by
  induction es using List.reverseRecOn with
  | nil => rfl
  | append_singleton es e ih =>
    rw [ofList_concat, find?_insert, List.reverse_concat, find?, ih]

/-! ## Taking out -/

/-- **Taking an entry out leaves the others**, in another order. -/
theorem removeSwapping_perm (h : Distinct es) :
    (removeSwapping key es).Perm (es.filter fun e => e.1 ≠ key) := by
  induction es with
  | nil => exact .nil
  | cons e es ih =>
    obtain ⟨hnot, hrest⟩ := List.nodup_cons.1 h
    rw [removeSwapping]
    split
    · next hk =>
      have hfilter : es.filter (fun e => e.1 ≠ key) = es := by
        refine List.filter_eq_self.2 fun x hx => ?_
        have : x.1 ≠ key := by
          intro hx'
          exact hnot (List.mem_map.2 ⟨x, hx, hx'.trans hk.symm⟩)
        simpa using this
      -- the last entry takes the place of the one that goes
      rw [List.filter_cons_of_neg (by simpa using hk), hfilter]
      cases hlast : es.getLast? with
      | none =>
        rw [List.getLast?_eq_none_iff.1 hlast]
      | some last =>
        obtain ⟨l, rfl⟩ := List.getLast?_eq_some_iff.1 hlast
        simpa using (List.perm_append_singleton last l).symm
    · next hk =>
      rw [List.filter_cons_of_pos (by simpa using hk)]
      exact (ih hrest).cons e

/-! ## Looking up -/

theorem find?_eq_none (h : key ∉ keys es) : es.find? key = none := by
  induction es with
  | nil => rfl
  | cons e es ih =>
    obtain ⟨hne, hrest⟩ : key ≠ e.1 ∧ key ∉ keys es := by simpa [keys] using h
    rw [find?, if_neg hne.symm, ih hrest]

theorem find?_append (es fs : Entries) (key : String) :
    find? key (es ++ fs) = (find? key es).or (find? key fs) := by
  induction es with
  | nil => rfl
  | cons e es ih =>
    rw [List.cons_append, find?, find?]
    split
    · rfl
    · exact ih

theorem find?_append_left (h : key ∉ keys fs) : find? key (es ++ fs) = find? key es := by
  rw [find?_append, find?_eq_none h, Option.or_none]

theorem find?_append_right (h : key ∉ keys es) : find? key (es ++ fs) = find? key fs := by
  rw [find?_append, find?_eq_none h, Option.none_or]

theorem mem_of_find?_eq_some (h : es.find? key = some value) : (key, value) ∈ es := by
  induction es with
  | nil => cases h
  | cons e es ih =>
    rw [find?] at h
    split at h
    · next hk =>
      obtain rfl := Option.some.inj h
      rw [← hk]
      exact List.mem_cons_self
    · exact List.mem_cons_of_mem e (ih h)

theorem find?_eq_some_iff (h : Distinct es) : es.find? key = some value ↔ (key, value) ∈ es := by
  refine ⟨mem_of_find?_eq_some, fun hmem => ?_⟩
  induction es with
  | nil => cases hmem
  | cons e es ih =>
    obtain ⟨hnot, hrest⟩ := List.nodup_cons.1 h
    rcases List.mem_cons.1 hmem with rfl | hmem
    · rw [find?, if_pos rfl]
    · have hne : e.1 ≠ key := fun hk => hnot (List.mem_map.2 ⟨_, hmem, hk.symm⟩)
      rw [find?, if_neg hne, ih hrest hmem]

/-- Looking up a key does not depend on the order. -/
theorem find?_perm (h : Distinct es) (hp : List.Perm es fs) : es.find? key = fs.find? key := by
  refine Option.ext fun value => ?_
  rw [find?_eq_some_iff h, find?_eq_some_iff (h.perm hp), hp.mem_iff]

/-- Entries with other keys do not matter. -/
theorem find?_filter {p : String → Bool} (h : p key = true) :
    find? key (es.filter fun e => p e.1) = es.find? key := by
  induction es with
  | nil => rfl
  | cons e es ih =>
    rw [List.filter_cons]
    by_cases hk : e.1 = key
    · rw [if_pos (by rw [hk, h]), find?, find?, if_pos hk, if_pos hk]
    · split
      · rw [find?, find?, if_neg hk, if_neg hk, ih]
      · rw [find?, if_neg hk, ih]

end Entries

end Json

end Flowchart
