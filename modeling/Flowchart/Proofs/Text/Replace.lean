import Flowchart.Proofs.Text.Search

/-!
# Replacing as a relation of lists

A text in which no match begins is passed over (`replace_append`), and a
match becomes the value (`replace_needle_append`).
-/

namespace Flowchart

namespace Text

variable {needle value x rest : List Char}

theorem replaceFrom_skip (needle value skipped rest : List Char) :
    replaceFrom needle value skipped.length (skipped ++ rest) = replace needle value rest := by
  induction skipped with
  | nil => rfl
  | cons c skipped ih => exact ih

/-- **A match becomes the value**, and the search goes on behind it. -/
theorem replace_needle_append (hneedle : needle ≠ []) (value rest : List Char) :
    replace needle value (needle ++ rest) = value ++ replace needle value rest := by
  obtain ⟨c, tail, rfl⟩ := List.exists_cons_of_ne_nil hneedle
  have hs : starts (c :: tail) (c :: (tail ++ rest)) = true := starts_iff.2 ⟨rest, rfl⟩
  change replaceFrom (c :: tail) value 0 (c :: (tail ++ rest)) = _
  rw [replaceFrom, if_pos hs, List.length_cons, Nat.add_sub_cancel, replaceFrom_skip]

/-- A text that is one match becomes the value. -/
theorem replace_self (hneedle : needle ≠ []) (value : List Char) :
    replace needle value needle = value := by
  have happend := replace_needle_append hneedle value []
  have hnil : replace needle value [] = [] := rfl
  rwa [hnil, List.append_nil, List.append_nil] at happend

/-- **No match begins in a text** that is followed by another. -/
def Clear (needle x rest : List Char) : Prop :=
  ∀ y, y <:+ x → y ≠ [] → ¬ needle <+: y ++ rest

theorem Clear.of_cons {c : Char} (h : Clear needle (c :: x) rest) : Clear needle x rest :=
  fun y hy => h y (hy.trans (List.suffix_cons c x))

/-- **A text in which no match begins is passed over.** -/
theorem replace_append (value : List Char) (h : Clear needle x rest) :
    replace needle value (x ++ rest) = x ++ replace needle value rest := by
  induction x with
  | nil => rfl
  | cons c x ih =>
    have hc : ¬ starts needle (c :: (x ++ rest)) = true :=
      fun hs => h _ (List.suffix_refl _) (by simp) (starts_iff.1 hs)
    have hx := ih h.of_cons
    unfold replace at hx
    change replaceFrom needle value 0 (c :: (x ++ rest)) = _
    rw [replaceFrom, if_neg hc, hx]
    rfl

/-- A text that holds no match stays as it is. -/
theorem replace_of_not_infix (value : List Char) (h : ¬ needle <:+: x) :
    replace needle value x = x := by
  have hclear : Clear needle x [] := by
    intro y hy _ hp
    rw [List.append_nil] at hp
    exact h (hp.isInfix.trans hy.isInfix)
  simpa [replace, replaceFrom] using replace_append value hclear

end Text

end Flowchart
