import Flowchart.Json.Raw
import Flowchart.Proofs.Decimal.Digits

/-!
# Numerals of documents

A proper numeral has the parts that documents ask for
(`Decimal.Numeral.Proper`). Written down in front of a text that does
not go on with it, it is read back, part by part
(`readNumeral_chars`).
-/

namespace Flowchart

namespace Decimal

namespace Numeral

/-- The point with the digits after it, if there are any. -/
def fractionChars (n : Numeral) : List Char :=
  if n.fraction = [] then [] else '.' :: n.fraction

/-- The exponent with its sign, if there is one. -/
def exponentChars (n : Numeral) : List Char :=
  match n.exponent with
  | none => []
  | some (negative, ds) => 'e' :: (if negative then '-' else '+') :: ds

/-- The numeral as documents write it. -/
def chars (n : Numeral) : List Char :=
  (if n.negative then ['-'] else []) ++ (n.whole ++ (n.fractionChars ++ n.exponentChars))

/-- **The numeral has the parts that documents ask for.** -/
structure Proper (n : Numeral) : Prop where
  /-- The digits before the point lead. -/
  whole : Leads n.whole
  /-- After the point are digits. -/
  fraction : ∀ c ∈ n.fraction, isDigit c = true
  /-- An exponent is one of digits. -/
  exponent : ∀ e ∈ n.exponent, e.2 ≠ [] ∧ ∀ c ∈ e.2, isDigit c = true

end Numeral

/-- **The text does not go on with a numeral.** -/
def Stops (rest : List Char) : Prop :=
  ∀ c ∈ rest.head?, isDigit c = false ∧ c ≠ '.' ∧ c ≠ 'e' ∧ c ≠ 'E'

theorem stops_nil : Stops [] := by
  intro c hc
  cases hc

variable {n : Numeral} {rest : List Char}

theorem Stops.noDigit (h : Stops rest) : ∀ c ∈ rest.head?, isDigit c = false :=
  fun c hc => (h c hc).1

/-- Neither the point nor the exponent goes on with a digit. -/
theorem noDigit_exponentChars (h : Stops rest) :
    ∀ c ∈ (n.exponentChars ++ rest).head?, isDigit c = false := by
  unfold Numeral.exponentChars
  cases n.exponent with
  | none => exact h.noDigit
  | some e =>
    intro c hc
    obtain rfl : 'e' = c := Option.some.inj hc
    decide

theorem noDigit_fractionChars (h : Stops rest) :
    ∀ c ∈ (n.fractionChars ++ (n.exponentChars ++ rest)).head?, isDigit c = false := by
  unfold Numeral.fractionChars
  split
  · exact noDigit_exponentChars h
  · intro c hc
    obtain rfl : '.' = c := Option.some.inj hc
    decide

end Decimal

namespace Json

open Decimal (Numeral Stops)

/-- What stands after the digits before the point: the digits after it,
and the rest. -/
def afterPoint? (text : List Char) : Option (List Char × List Char) :=
  match text with
  | '.' :: r =>
    let (ds, rest) := Decimal.run r
    if ds.isEmpty then none else some (ds, rest)
  | r => some ([], r)

/-- The end of a numeral, from its exponent on. -/
def afterDigits? (n : Numeral) (text : List Char) : Option (Numeral × List Char) :=
  match text with
  | c :: r =>
    if c = 'e' ∨ c = 'E' then
      (Decimal.exponent? r).map fun (e, rest) => ({ n with exponent := some e }, rest)
    else some (n, c :: r)
  | [] => some (n, [])

/-- A numeral after its sign. -/
def readUnsigned (negative : Bool) (text : List Char) : Option (Numeral × List Char) :=
  let (whole, text) := Decimal.run text
  if whole.isEmpty || (whole.head? == some '0' && whole.length != 1) then none
  else
    match afterPoint? text with
    | none => none
    | some (fraction, text) => afterDigits? { negative, whole, fraction } text

/-- The sign of a numeral, and the rest. -/
def afterSign (text : List Char) : Bool × List Char :=
  match text with
  | '-' :: r => (true, r)
  | r => (false, r)

/-- **Reading goes part by part.** -/
theorem readNumeral_eq (text : List Char) :
    readNumeral text = readUnsigned (afterSign text).1 (afterSign text).2 := rfl

theorem afterSign_of_ne {c : Char} {text : List Char} (h : c ≠ '-') :
    afterSign (c :: text) = (false, c :: text) := by
  unfold afterSign
  split
  · next heq => exact absurd (List.cons.inj heq).1 h
  · rfl

variable {n : Numeral} {rest : List Char}

/-- The exponent is read back. -/
theorem afterDigits?_exponentChars (hn : n.Proper) (h : Stops rest) :
    afterDigits? { n with exponent := none } (n.exponentChars ++ rest) = some (n, rest) := by
  unfold Numeral.exponentChars afterDigits?
  rcases n with ⟨negative, whole, fraction, _ | ⟨sign, ds⟩⟩
  · cases rest with
    | nil => rfl
    | cons c rest =>
      have hc := h c rfl
      simp only [List.nil_append, hc.2.2.1, hc.2.2.2, or_self, if_false]
  · obtain ⟨hne, hds⟩ := hn.exponent _ rfl
    have hrun := Decimal.run_append hds h.noDigit
    have hempty : ds.isEmpty = false := by simpa using hne
    cases sign <;> simp [Decimal.exponent?, hrun, hempty]

/-- The digits after the point are read back. -/
theorem afterPoint?_fractionChars (hn : n.Proper) (h : Stops rest) :
    afterPoint? (n.fractionChars ++ (n.exponentChars ++ rest)) =
      some (n.fraction, n.exponentChars ++ rest) := by
  unfold Numeral.fractionChars
  split
  case isTrue hnil =>
    rw [List.nil_append, hnil]
    unfold afterPoint?
    split
    · next r heq =>
      unfold Numeral.exponentChars at heq
      split at heq
      · rw [List.nil_append] at heq
        exact absurd rfl (h '.' (by rw [heq]; rfl)).2.1
      · simp at heq
    · rfl
  case isFalse hne =>
    have hempty : n.fraction.isEmpty = false := by simpa using hne
    rw [List.cons_append, afterPoint?, Decimal.run_append hn.fraction
      (Decimal.noDigit_exponentChars h)]
    simp only [hempty, Bool.false_eq_true, if_false]

/-- **A proper numeral is read back**, up to where the text stops. -/
theorem readNumeral_chars (hn : n.Proper) (h : Stops rest) :
    readNumeral (n.chars ++ rest) = some (n, rest) := by
  have hsign : afterSign (n.chars ++ rest) =
      (n.negative, n.whole ++ (n.fractionChars ++ (n.exponentChars ++ rest))) := by
    unfold Numeral.chars
    cases n.negative with
    | true => simp [afterSign]
    | false =>
      obtain ⟨c, ds, hwhole⟩ := List.exists_cons_of_ne_nil hn.whole.ne_nil
      have hc : Decimal.isDigit c = true := hn.whole.digits c (by simp [hwhole])
      have hne : c ≠ '-' := by
        rintro rfl
        exact absurd hc (by decide)
      simp [hwhole, afterSign_of_ne hne]
  have hwhole :
      (n.whole.isEmpty || (n.whole.head? == some '0' && n.whole.length != 1)) = false := by
    have hne := hn.whole.ne_nil
    by_cases hz : n.whole.head? = some '0'
    · simp [hn.whole.zero hz]
    · simp [hne, hz]
  rw [readNumeral_eq, hsign, readUnsigned,
    Decimal.run_append hn.whole.digits (Decimal.noDigit_fractionChars h)]
  simp only [hwhole, Bool.false_eq_true, if_false, afterPoint?_fractionChars hn h]
  exact afterDigits?_exponentChars hn h

end Json

end Flowchart
