import Flowchart.Proofs.Text.Search
import Flowchart.Text.Blank
import Mathlib.Data.List.TakeWhile

/-!
# Separators with a gap on either side

A match does not reach over a character that it does not hold
(`prefix_of_not_mem`, `infix_gap`). So a text with a gap on either side of
a separator is cut there, and nowhere else (`pieces_gap`), and trimming
the two parts gives back what stood around (`trimBy_append`,
`trimBy_prepend`).
-/

namespace Flowchart

namespace Text

variable {p : Char → Bool} {needle x y gap gap' : List Char} {c : Char}

/-! ## Matches -/

/-- **A match at the front ends before a character that it does not
hold.** -/
theorem prefix_of_not_mem (hc : c ∉ needle) (h : needle <+: x ++ c :: y) : needle <+: x := by
  induction x generalizing needle with
  | nil =>
    cases needle with
    | nil => exact List.nil_prefix
    | cons n needle => exact absurd (List.cons_prefix_cons.1 h).1 (List.ne_of_not_mem_cons hc).symm
  | cons d x ih =>
    cases needle with
    | nil => exact List.nil_prefix
    | cons n needle =>
      obtain ⟨hn, hrest⟩ := List.cons_prefix_cons.1 h
      exact List.cons_prefix_cons.2 ⟨hn, ih (List.not_mem_of_not_mem_cons hc) hrest⟩

/-- A match lies on one side of a character that it does not hold. -/
theorem infix_of_not_mem (hc : c ∉ needle) (h : needle <:+: x ++ c :: y) :
    needle <:+: x ∨ needle <:+: y := by
  induction x with
  | nil =>
    rcases List.infix_cons_iff.1 h with h | h
    · exact .inl (prefix_of_not_mem hc (x := []) h).isInfix
    · exact .inr h
  | cons d x ih =>
    rcases List.infix_cons_iff.1 h with h | h
    · exact .inl (prefix_of_not_mem hc (x := d :: x) h).isInfix
    · exact (ih h).imp_left (List.infix_cons ·)

/-- **A match lies on one side of a gap.** -/
theorem infix_gap (hne : gap ≠ []) (hgap : ∀ c ∈ gap, c ∉ needle)
    (h : needle <:+: x ++ (gap ++ y)) : needle <:+: x ∨ needle <:+: y := by
  induction gap generalizing x with
  | nil => exact absurd rfl hne
  | cons c gap ih =>
    refine (infix_of_not_mem (hgap c List.mem_cons_self) h).imp_right fun h => ?_
    by_cases hgap' : gap = []
    · rwa [hgap'] at h
    · -- what lies in front of the rest of the gap is empty
      rcases ih hgap' (fun d hd => hgap d (List.mem_cons_of_mem c hd)) (x := []) h with h | h
      · exact List.infix_nil.1 h ▸ List.nil_infix
      · exact h

/-! ## Pieces -/

/-- **A text without the separator is one piece.** -/
theorem pieces_of_not_infix (h : ¬ needle <:+: x) : pieces needle x = [x] := by
  unfold pieces
  induction x with
  | nil => rfl
  | cons c x ih =>
    rw [List.infix_cons_iff, not_or] at h
    rw [piecesFrom, if_neg (fun hs => h.1 (starts_iff.1 hs)), ih h.2, consFirst]

/-- A text in front of a gap is solid if the separator does not occur in
it. -/
theorem solid_append_gap (hneedle : needle ≠ []) (hne : gap ≠ []) (hgap : ∀ c ∈ gap, c ∉ needle)
    (h : ¬ needle <:+: x) : Solid needle (x ++ gap) := by
  have hfree : ¬ needle <:+: x ++ gap := fun hinfix => by
    rw [← List.append_nil gap] at hinfix
    rcases infix_gap hne hgap hinfix with hinfix | hinfix
    · exact h hinfix
    · exact hneedle (List.infix_nil.1 hinfix)
  intro y hsuffix hy
  refine ⟨fun hp => hfree (hp.isInfix.trans hsuffix.isInfix), fun rest hp => ?_⟩
  -- the last character is the last one of the gap, and a match would end before it
  obtain ⟨front, c, rfl⟩ := (List.eq_nil_or_concat' gap).resolve_left hne
  rw [← List.append_assoc, List.suffix_concat_iff] at hsuffix
  obtain ⟨y, rfl, hfront⟩ := hsuffix.resolve_left hy
  rw [List.append_assoc, List.singleton_append] at hp
  have hlast := prefix_of_not_mem (hgap c (List.mem_append_right _ List.mem_cons_self)) hp
  rw [← List.append_assoc] at hfree
  exact hfree ((hlast.isInfix.trans hfront.isInfix).trans (List.prefix_append _ [c]).isInfix)

/-- **A separator with a gap on either side** makes two pieces of a text
that holds it nowhere else. -/
theorem pieces_gap (hneedle : needle ≠ []) (hne : gap ≠ []) (hne' : gap' ≠ [])
    (hgap : ∀ c ∈ gap, c ∉ needle) (hgap' : ∀ c ∈ gap', c ∉ needle)
    (hx : ¬ needle <:+: x) (hy : ¬ needle <:+: y) :
    pieces needle ((x ++ gap) ++ (needle ++ (gap' ++ y))) = [x ++ gap, gap' ++ y] := by
  have hfree : ¬ needle <:+: gap' ++ y := fun hinfix => by
    rcases infix_gap (x := []) hne' hgap' hinfix with hinfix | hinfix
    · exact hneedle (List.infix_nil.1 hinfix)
    · exact hy hinfix
  rw [pieces_append hneedle (solid_append_gap hneedle hne hgap hx), pieces_of_not_infix hfree]

/-! ## Trimming -/

theorem trimBy_append (h : ∀ c ∈ gap, p c = true) : trimBy p (x ++ gap) = trimBy p x := by
  have hrev : ∀ c ∈ gap.reverse, p c = true := fun c hc => h c (List.mem_reverse.1 hc)
  rw [trimBy, List.dropWhile_append, trimBy]
  split
  · next hx =>
    rw [List.isEmpty_iff.1 hx, List.dropWhile_eq_nil_iff.2 h]
  · rw [List.reverse_append, List.dropWhile_append_of_pos hrev]

theorem trimBy_prepend (h : ∀ c ∈ gap, p c = true) : trimBy p (gap ++ x) = trimBy p x := by
  rw [trimBy, List.dropWhile_append_of_pos h, trimBy]

/-- A text between two characters that are not trimmed stays as it is. -/
theorem trimBy_between {d : Char} (hc : p c = false) (hd : p d = false) :
    trimBy p (c :: (x ++ [d])) = c :: (x ++ [d]) := by
  have hfirst : (c :: (x ++ [d])).dropWhile p = c :: (x ++ [d]) :=
    List.dropWhile_cons_of_neg (by simp [hc])
  have hlast : (c :: (x ++ [d])).reverse = d :: (x.reverse ++ [c]) := by simp
  rw [trimBy, hfirst, hlast, List.dropWhile_cons_of_neg (by simp [hd]), ← hlast,
    List.reverse_reverse]

end Text

end Flowchart
