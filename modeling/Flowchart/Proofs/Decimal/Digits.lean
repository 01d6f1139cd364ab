import Flowchart.Decimal.Digits
import Mathlib.Data.List.Basic
import Mathlib.Data.List.Induction

/-!
# The digits of a number

The last digit of a number comes after the digits of its tenth
(`digits_step`); what holds of all digits is shown along that equation.
A number has digits, and the first of them is a zero only if it is the
only one (`Leads`); such digits are those of their value
(`digits_value`).
-/

namespace Flowchart

namespace Decimal

variable {n fuel fuel' : Nat} {acc acc' ds : List Char} {c : Char}

theorem isDigit_digitChar (d : Nat) : isDigit (digitChar d) = true := by
  have all : ∀ k < 10, isDigit (Char.ofNat (48 + k)) = true := by decide
  exact all (d % 10) (Nat.mod_lt d (by decide))

theorem digitChar_eq_zero_iff (h : n < 10) : digitChar n = '0' ↔ n = 0 := by
  have all : ∀ k < 10, Char.ofNat (48 + k % 10) = '0' ↔ k = 0 := by decide
  exact all n h

/-! ## One digit after another -/

theorem digitsFrom_append : digitsFrom fuel n (acc ++ acc') = digitsFrom fuel n acc ++ acc' := by
  induction fuel generalizing n acc with
  | zero => rfl
  | succ fuel ih =>
    rw [digitsFrom, digitsFrom]
    split
    · rfl
    · rw [← List.cons_append, ih]

/-- Fuel beyond the number makes no difference. -/
theorem digitsFrom_fuel (h : n < fuel) (h' : n < fuel') :
    digitsFrom fuel n acc = digitsFrom fuel' n acc := by
  induction fuel generalizing n fuel' acc with
  | zero => omega
  | succ fuel ih =>
    obtain ⟨fuel', rfl⟩ : ∃ k, fuel' = k + 1 := ⟨fuel' - 1, by omega⟩
    rw [digitsFrom, digitsFrom]
    split
    · rfl
    · exact ih (by omega) (by omega)

theorem digits_of_lt (h : n < 10) : digits n = [digitChar n] := by
  rw [digits, digitsFrom, if_pos h]

/-- **The last digit comes after the digits of the tenth.** -/
theorem digits_step (h : 10 ≤ n) : digits n = digits (n / 10) ++ [digitChar (n % 10)] := by
  rw [digits, digitsFrom, if_neg (by omega), digits, ← digitsFrom_append, List.nil_append]
  exact digitsFrom_fuel (by omega) (by omega)

/-- **The induction over the digits of a number.** -/
theorem digits_induction {P : Nat → List Char → Prop} (one : ∀ n < 10, P n [digitChar n])
    (more : ∀ n, 10 ≤ n → P (n / 10) (digits (n / 10)) →
      P n (digits (n / 10) ++ [digitChar (n % 10)])) (n : Nat) : P n (digits n) := by
  induction n using Nat.strongRecOn with
  | ind n ih =>
    by_cases h : n < 10
    · rw [digits_of_lt h]
      exact one n h
    · rw [digits_step (by omega)]
      exact more n (by omega) (ih (n / 10) (by omega))

/-! ## What the digits are -/

theorem digits_ne_nil (n : Nat) : digits n ≠ [] :=
  digits_induction (P := fun _ ds => ds ≠ []) (fun _ _ => List.cons_ne_nil _ _)
    (fun _ _ _ => List.append_ne_nil_of_right_ne_nil _ (List.cons_ne_nil _ _)) n

theorem isDigit_of_mem_digits (n : Nat) : ∀ c ∈ digits n, isDigit c = true :=
  digits_induction (P := fun _ ds => ∀ c ∈ ds, isDigit c = true)
    (fun n _ c hc => List.mem_singleton.1 hc ▸ isDigit_digitChar n)
    (fun n _ ih c hc => by
      rcases List.mem_append.1 hc with hc | hc
      · exact ih c hc
      · exact List.mem_singleton.1 hc ▸ isDigit_digitChar _) n

/-- **Digits as a numeral leads with them**: there are some, and a zero
in front is the only one. -/
structure Leads (ds : List Char) : Prop where
  /-- There is a digit. -/
  ne_nil : ds ≠ []
  /-- Nothing else stands there. -/
  digits : ∀ c ∈ ds, isDigit c = true
  /-- A zero in front stands alone. -/
  zero : ds.head? = some '0' → ds = ['0']

/-- The digits of a number other than zero begin with another digit. -/
theorem head?_digits (h : 0 < n) : (digits n).head? ≠ some '0' := by
  refine digits_induction (P := fun n ds => 0 < n → ds.head? ≠ some '0') ?_ ?_ n h
  · intro n hn hpos heq
    have := (digitChar_eq_zero_iff hn).1 (Option.some.inj heq)
    omega
  · intro n hn ih _
    rw [List.head?_append_of_ne_nil _ (digits_ne_nil _)]
    exact ih (by omega)

/-- **The digits of a number lead a numeral.** -/
theorem leads_digits (n : Nat) : Leads (digits n) where
  ne_nil := digits_ne_nil n
  digits := isDigit_of_mem_digits n
  zero heq := by
    rcases Nat.eq_zero_or_pos n with rfl | hpos
    · rfl
    · exact absurd heq (head?_digits hpos)

/-! ## The value of digits -/

theorem value_concat (ds : List Char) (c : Char) :
    value (ds ++ [c]) = 10 * value ds + (digit? c).getD 0 := by
  rw [value, List.foldl_append]
  rfl

/-- A digit is the one of its value. -/
theorem exists_digit (h : isDigit c = true) :
    ∃ d < 10, digit? c = some d ∧ digitChar d = c := by
  unfold isDigit digit? at h
  split at h
  · next hc =>
    have h0 : '0'.toNat ≤ c.toNat := hc.1
    have h9 : c.toNat ≤ '9'.toNat := hc.2
    have e0 : '0'.toNat = 48 := rfl
    have e9 : '9'.toNat = 57 := rfl
    refine ⟨c.toNat - 48, by omega, if_pos hc, ?_⟩
    rw [digitChar, Nat.mod_eq_of_lt (by omega), Nat.add_sub_of_le (by omega), Char.ofNat_toNat]
  · cases h

/-- **Digits that lead a numeral are those of their value.** -/
theorem digits_value (h : Leads ds) : digits (value ds) = ds := by
  obtain ⟨hne, hall, hzero⟩ := h
  induction ds using List.reverseRecOn with
  | nil => exact absurd rfl hne
  | append_singleton ds c ih =>
    obtain ⟨d, hd, hdigit, hchar⟩ :=
      exists_digit (hall c (List.mem_append_right _ List.mem_cons_self))
    rw [value_concat, hdigit, Option.getD_some]
    by_cases hds : ds = []
    · subst hds
      rw [value, List.foldl_nil, Nat.mul_zero, Nat.zero_add, digits_of_lt hd, hchar,
        List.nil_append]
    · have hhead : ds.head? ≠ some '0' := fun h0 => by
        have hshort := hzero (by rw [List.head?_append_of_ne_nil _ hds, h0])
        exact hds (List.append_eq_singleton_iff.1 hshort |>.resolve_right (by simp)).1
      have hdsvalue := ih hds (fun c hc => hall c (List.mem_append_left _ hc))
        fun h0 => absurd h0 hhead
      have hpos : 0 < value ds := by
        rw [Nat.pos_iff_ne_zero]
        intro h0
        rw [h0] at hdsvalue
        exact hhead (hdsvalue ▸ rfl)
      have htenth : (10 * value ds + d) / 10 = value ds := by omega
      have hlast : (10 * value ds + d) % 10 = d := by omega
      rw [digits_step (by omega), htenth, hlast, hdsvalue, hchar]

/-! ## Runs of digits -/

/-- **A run ends before a text that goes on with no digit.** -/
theorem run_append {ds rest : List Char} (hds : ∀ c ∈ ds, isDigit c = true)
    (hrest : ∀ c ∈ rest.head?, isDigit c = false) : run (ds ++ rest) = (ds, rest) := by
  have stop : rest.takeWhile isDigit = [] ∧ rest.dropWhile isDigit = rest := by
    cases rest with
    | nil => exact ⟨rfl, rfl⟩
    | cons c rest =>
      have hc := hrest c rfl
      rw [List.takeWhile_cons_of_neg (by simp [hc]), List.dropWhile_cons_of_neg (by simp [hc])]
      exact ⟨rfl, rfl⟩
  rw [run, List.takeWhile_append_of_pos hds, List.dropWhile_append_of_pos hds, stop.1, stop.2,
    List.append_nil]

end Decimal

end Flowchart
