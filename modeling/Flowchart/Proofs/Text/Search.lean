import Flowchart.Text.Search
import Mathlib.Data.List.Infix

/-!
# Searching and cutting as relations of lists

What the searches of texts decide, said with prefixes and infixes:
`starts_iff`, `occurs_iff`. Pieces that are joined by a separator come
apart again (`pieces_intercalate`), as long as the separator does not
begin within a piece.
-/

namespace Flowchart

namespace Text

variable {needle text x rest : List Char}

theorem starts_iff : starts needle text = true ↔ needle <+: text := by
  unfold starts
  constructor
  · intro h
    obtain ⟨rest, hrest⟩ := Option.isSome_iff_exists.1 h
    exact ⟨rest, (eq_append_of_after? hrest).symm⟩
  · rintro ⟨rest, rfl⟩
    rw [after?_append]
    rfl

theorem ends_iff : ends needle text = true ↔ needle <:+ text := by
  rw [ends, starts_iff, List.reverse_prefix]

theorem occurs_iff : occurs needle text = true ↔ needle <:+: text := by
  induction text with
  | nil => simp [occurs]
  | cons c text ih => rw [occurs, Bool.or_eq_true, starts_iff, ih, List.infix_cons_iff]

/-! ## Cutting -/

theorem piecesFrom_skip (needle skipped rest : List Char) :
    piecesFrom needle skipped.length (skipped ++ rest) = pieces needle rest := by
  induction skipped with
  | nil => rfl
  | cons c skipped ih => exact ih

/-- **The separator does not begin within a piece**, whatever follows. -/
def Solid (needle x : List Char) : Prop :=
  ∀ y, y <:+ x → y ≠ [] → ¬ needle <+: y ∧ ∀ rest, ¬ needle <+: y ++ (needle ++ rest)

theorem Solid.of_cons {c : Char} (h : Solid needle (c :: x)) : Solid needle x :=
  fun y hy => h y (hy.trans (List.suffix_cons c x))

/-- A piece without a separator behind it is the last one. -/
theorem pieces_solid (h : Solid needle x) : pieces needle x = [x] := by
  induction x with
  | nil => rfl
  | cons c x ih =>
    have hc : ¬ starts needle (c :: x) = true :=
      fun hs => (h _ (List.suffix_refl _) (by simp)).1 (starts_iff.1 hs)
    have hx := ih h.of_cons
    unfold pieces at hx ⊢
    rw [piecesFrom, if_neg hc, hx]
    rfl

/-- A piece ends where the separator begins. -/
theorem pieces_append (hn : needle ≠ []) (h : Solid needle x) :
    pieces needle (x ++ (needle ++ rest)) = x :: pieces needle rest := by
  induction x with
  | nil =>
    obtain ⟨c, tail, rfl⟩ := List.exists_cons_of_ne_nil hn
    have hs : starts (c :: tail) (c :: (tail ++ rest)) = true := starts_iff.2 ⟨rest, rfl⟩
    change piecesFrom (c :: tail) 0 (c :: (tail ++ rest)) = _
    -- the separator begins here, and its other characters are skipped
    rw [piecesFrom, if_pos hs, List.length_cons, Nat.add_sub_cancel, piecesFrom_skip]
  | cons c x ih =>
    have hc : ¬ starts needle (c :: (x ++ (needle ++ rest))) = true :=
      fun hs => (h _ (List.suffix_refl _) (by simp)).2 rest (starts_iff.1 hs)
    have hx := ih h.of_cons
    unfold pieces at hx
    change piecesFrom needle 0 (c :: (x ++ (needle ++ rest))) = _
    rw [piecesFrom, if_neg hc, hx]
    rfl

/-- **Joined pieces come apart again.** -/
theorem pieces_intercalate {xs : List (List Char)} (hn : needle ≠ []) (hne : xs ≠ [])
    (h : ∀ x ∈ xs, Solid needle x) : pieces needle (needle.intercalate xs) = xs := by
  induction xs with
  | nil => exact absurd rfl hne
  | cons x xs ih =>
    have hx := h x List.mem_cons_self
    cases xs with
    | nil => simpa using pieces_solid hx
    | cons y ys =>
      have rest := ih (by simp) fun z hz => h z (List.mem_cons_of_mem x hz)
      rw [List.intercalate_cons_cons, List.append_assoc, pieces_append hn hx, rest]

end Text

end Flowchart
