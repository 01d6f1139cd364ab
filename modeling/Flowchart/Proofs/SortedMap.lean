import Flowchart.SortedMap
import Mathlib.Data.List.Nodup
import Mathlib.Data.List.Perm.Basic

/-!
# Maps and the order of their entries

Where keys are distinct it does not matter in which order the entries
stand: each is found under its key (`findIn?_eq_some_iff`), and the map
that is collected from them is the same in every order
(`ofList_of_perm`).
-/

namespace Flowchart

namespace SortedMap

variable {α : Type} {es fs : List (String × α)} {key : String} {value : α}

/-- **Under distinct keys every entry is found.** -/
theorem findIn?_eq_some_iff (h : (es.map (·.1)).Nodup) :
    findIn? key es = some value ↔ (key, value) ∈ es := by
  refine ⟨mem_of_findIn?_eq_some, fun hmem => ?_⟩
  induction es with
  | nil => cases hmem
  | cons e es ih =>
    obtain ⟨hnot, hrest⟩ := List.nodup_cons.1 h
    rcases List.mem_cons.1 hmem with rfl | hmem
    · rw [findIn?, if_pos rfl]
    · have hne : e.1 ≠ key := fun hk => hnot (List.mem_map.2 ⟨_, hmem, hk.symm⟩)
      rw [findIn?, if_neg hne, ih hrest hmem]

/-- The order of the entries does not matter. -/
theorem findIn?_of_perm (h : (es.map (·.1)).Nodup) (hp : es.Perm fs) (key : String) :
    findIn? key es = findIn? key fs := by
  refine Option.ext fun value => ?_
  rw [findIn?_eq_some_iff h, findIn?_eq_some_iff ((hp.map _).nodup_iff.1 h), hp.mem_iff]

/-- **The order of the entries does not matter to a map.** -/
theorem ofList_of_perm (h : (es.map (·.1)).Nodup) (hp : es.Perm fs) : ofList es = ofList fs := by
  refine ext_find? fun key => ?_
  rw [find?_ofList h, find?_ofList ((hp.map _).nodup_iff.1 h), findIn?_of_perm h hp]

end SortedMap

end Flowchart
