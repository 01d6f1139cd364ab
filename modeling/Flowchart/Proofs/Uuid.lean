import Flowchart.Uuid
import Mathlib.Algebra.Ring.Nat

/-!
# Identifiers are read as they are written

The text of an identifier has a hyphen behind each of its groups but the
last one, and is read in that form (`ofText?_toText`): it is longer than
the 32 digits of the form without hyphens, and no digit begins one of the
other forms.
-/

namespace Flowchart

namespace Uuid

/-- **Hyphens that were put in are taken out.** -/
theorem unhyphenate?_hyphenate (sizes : List Nat) (ds : List Char) (h : ds.length = sizes.sum) :
    unhyphenate? sizes (hyphenate sizes ds) = some ds := by
  induction sizes generalizing ds with
  | nil =>
    obtain rfl := List.length_eq_zero_iff.1 h
    rfl
  | cons n sizes ih =>
    cases sizes with
    | nil =>
      rw [List.sum_singleton] at h
      rw [hyphenate, unhyphenate?, if_pos h]
    | cons m sizes =>
      rw [List.sum_cons] at h
      have hn : (ds.take n).length = n := by
        rw [List.length_take]
        omega
      have hrest := ih (ds.drop n) (by rw [List.length_drop]; omega)
      rw [hyphenate, unhyphenate?, List.drop_left' hn, List.take_left' hn]
      simp only [hrest, Option.map_some, List.take_append_drop]

theorem length_hyphenate (sizes : List Nat) (ds : List Char) (h : ds.length = sizes.sum) :
    (hyphenate sizes ds).length = ds.length + (sizes.length - 1) := by
  induction sizes generalizing ds with
  | nil => rfl
  | cons n sizes ih =>
    cases sizes with
    | nil => rfl
    | cons m sizes =>
      rw [List.sum_cons] at h
      have hrest := ih (ds.drop n) (by rw [List.length_drop]; omega)
      rw [hyphenate, List.length_append, List.length_cons, hrest, List.length_take,
        List.length_drop]
      simp only [List.length_cons]
      omega

/-- Digits that were written are read. -/
theorem ofDigits?_map (u : Uuid) : ofDigits? (u.digits.map Text.hexDigit) = some u := by
  have hdigits : ∀ ds : List (Fin 16), (ds.map Text.hexDigit).mapM Text.hexValue? = some ds := by
    intro ds
    induction ds with
    | nil => rfl
    | cons d ds ih => simp [ih]
  rw [ofDigits?, hdigits]
  simp only [dif_pos u.length_eq]

/-- The written form begins with a digit. -/
theorem exists_hexDigit (u : Uuid) : ∃ d cs, u.toChars = Text.hexDigit d :: cs := by
  obtain ⟨_ | ⟨d, ds⟩, hlength⟩ := u
  · cases hlength
  · exact ⟨d, _, rfl⟩

/-- A text that begins with a digit is read without braces or a prefix. -/
theorem ofChars?_hexDigit (d : Fin 16) (cs : List Char) :
    ofChars? (Text.hexDigit d :: cs) =
      if (Text.hexDigit d :: cs).length = 32 then ofDigits? (Text.hexDigit d :: cs)
      else ofHyphenated? (Text.hexDigit d :: cs) := by
  have hbrace : Text.hexDigit d ≠ '\x7b' := by revert d; decide
  have hprefix : Text.hexDigit d ≠ 'u' := by revert d; decide
  unfold ofChars?
  split
  · next heq => exact absurd (List.cons.inj heq).1 hbrace
  · next heq => exact absurd (List.cons.inj heq).1 hprefix
  · rfl

/-- **An identifier is read as it is written.** -/
theorem ofText?_toText (u : Uuid) : ofText? u.toText = some u := by
  have hgroups : (u.digits.map Text.hexDigit).length = groups.sum := by
    rw [List.length_map, u.length_eq]
    rfl
  have hlength : u.toChars.length ≠ 32 := by
    rw [toChars, length_hyphenate groups _ hgroups, hgroups]
    decide
  obtain ⟨d, cs, hcs⟩ := u.exists_hexDigit
  rw [hcs] at hlength
  rw [ofText?, toText, String.toList_ofList, hcs, ofChars?_hexDigit, if_neg hlength, ← hcs,
    ofHyphenated?, toChars, unhyphenate?_hyphenate groups _ hgroups, Option.bind_some,
    ofDigits?_map]

end Uuid

end Flowchart
