import Flowchart.Decimal.Reading
import Flowchart.Proofs.Decimal.Digits

/-!
# Numerals that are not written as they are read

An integer has one usual spelling: no plus sign, no zero in front of
other digits, and no sign in front of a zero (`Usual`). A text that an
integer is read from is written back as it was just if it is spelt so
(`ofInt_eq_iff`). A text that begins with something else than a sign, a
point or a digit denotes no number (`finite?_eq_none`).
-/

namespace Flowchart

namespace Decimal

variable {text ds : List Char} {c : Char} {i : Int} {n : Nat}

/-- **An integer in its usual spelling.** -/
inductive Usual : List Char → Prop where
  /-- Without a sign. -/
  | natural {ds : List Char} (h : Leads ds) : Usual ds
  /-- Below zero. -/
  | negative {ds : List Char} (h : Leads ds) (hne : ds ≠ ['0']) : Usual ('-' :: ds)

theorem natural?_eq_some_iff :
    natural? ds = some n ↔ ds ≠ [] ∧ (∀ c ∈ ds, isDigit c = true) ∧ value ds = n := by
  rw [natural?]
  cases ds <;> simp

/-- A text of digits is that of its value just if they lead a numeral. -/
theorem digits_eq_iff (h : natural? ds = some n) : digits n = ds ↔ Leads ds := by
  obtain ⟨-, -, rfl⟩ := natural?_eq_some_iff.1 h
  exact ⟨fun heq => heq ▸ leads_digits _, digits_value⟩

theorem Leads.head_isDigit (h : Leads (c :: ds)) : isDigit c = true :=
  h.digits c List.mem_cons_self

/-- A minus sign is usual in front of digits that lead a numeral other
than zero. -/
theorem ofInt_neg_eq_iff (h : natural? ds = some n) :
    ofInt (-(n : Int)) = '-' :: ds ↔ Usual ('-' :: ds) := by
  have hsign : ¬ Leads ('-' :: ds) := fun h => Bool.false_ne_true h.head_isDigit
  have husual : Usual ('-' :: ds) ↔ Leads ds ∧ ds ≠ ['0'] := by
    refine ⟨fun h => ?_, fun h => .negative h.1 h.2⟩
    obtain h | ⟨h, hne⟩ := h
    · exact absurd h hsign
    · exact ⟨h, hne⟩
  rw [husual]
  cases n with
  | zero =>
    -- zero is written without a sign
    have hzero : Leads ds → ds = ['0'] := fun hds => ((digits_eq_iff h).2 hds).symm
    exact ⟨fun heq => absurd (heq ▸ leads_digits 0) hsign, fun hds => absurd (hzero hds.1) hds.2⟩
  | succ n =>
    have hne : Leads ds → ds ≠ ['0'] := by
      rintro hds rfl
      exact head?_digits (Nat.succ_pos n) ((digits_eq_iff h).2 hds ▸ rfl)
    rw [and_iff_left_of_imp hne, ← digits_eq_iff h]
    exact List.cons_inj_right '-'

/-- **The text of an integer is the one that it was read from** just if
that has the usual spelling. -/
theorem ofInt_eq_iff (h : integer? text = some i) : ofInt i = text ↔ Usual text := by
  unfold integer? at h
  split at h
  · next ds =>
    cases hn : natural? ds with
    | none =>
      rw [hn] at h
      cases h
    | some n =>
      rw [hn] at h
      obtain rfl : -(n : Int) = i := Option.some.inj h
      exact ofInt_neg_eq_iff hn
  · next ds =>
    obtain ⟨n, hn, rfl⟩ := Option.map_eq_some_iff.1 h
    have hsign : ¬ Leads ('+' :: ds) := fun h => Bool.false_ne_true h.head_isDigit
    constructor
    · intro heq
      exact absurd (heq ▸ leads_digits n) hsign
    · rintro (h | h)
      exact absurd h hsign
  · next hminus _ =>
    obtain ⟨n, hn, rfl⟩ := Option.map_eq_some_iff.1 h
    refine (digits_eq_iff hn).trans ⟨.natural, ?_⟩
    rintro (h | ⟨h, -⟩)
    · exact h
    · exact absurd rfl (hminus _)

/-! ## Texts that are no numbers -/

/-- A number begins with a sign, a point or a digit. -/
def Opens (c : Char) : Prop :=
  c = '-' ∨ c = '+' ∨ c = '.' ∨ isDigit c = true

theorem integer?_eq_none (h : ¬ Opens c) : integer? (c :: text) = none := by
  simp only [Opens, not_or, Bool.not_eq_true] at h
  obtain ⟨hminus, hplus, -, hdigit⟩ := h
  have hnone : natural? (c :: text) = none := by simp [natural?, hdigit]
  unfold integer?
  split
  · next heq => exact absurd (List.cons.inj heq).1 hminus
  · next heq => exact absurd (List.cons.inj heq).1 hplus
  · rw [hnone]
    rfl

/-- **What does not begin like a number denotes none.** -/
theorem finite?_eq_none (h : ¬ Opens c) : finite? (c :: text) = none := by
  simp only [Opens, not_or, Bool.not_eq_true] at h
  obtain ⟨hminus, hplus, hpoint, hdigit⟩ := h
  have hrun : run (c :: text) = ([], c :: text) := by simp [run, hdigit]
  have hnone : Numeral.ofText? (c :: text) = none := by
    simp [Numeral.ofText?, hminus, hplus, hpoint, hrun]
  rw [finite?, hnone, Option.bind_none]

end Decimal

end Flowchart
