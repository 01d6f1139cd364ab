import Flowchart.Json.Printer
import Flowchart.Proofs.Decimal.Shortest
import Flowchart.Proofs.Json.Numeral

/-!
# Written numbers

Every number is written as a proper numeral (`exists_numeral`), so the
text of a document is read on past it. Which number it is read as is
another matter, since reading rounds once more than writing: that is
`Number.reread?`.
-/

namespace Flowchart

namespace Binary64

open Decimal (digits isDigit)

variable {m : Numeral} {layout : Layout}

/-- A numeral with a digit in front is written with one in front. -/
theorem leads_front {ds : List Char} {whole : Nat} (hds : ∀ c ∈ ds, isDigit c = true)
    (hne : ds ≠ []) (hhead : ds.head? ≠ some '0') (hwhole : 0 < whole) :
    Decimal.Leads (ds.take whole ++ List.replicate (whole - ds.length) '0') := by
  obtain ⟨c, ds, rfl⟩ := List.exists_cons_of_ne_nil hne
  obtain ⟨whole, rfl⟩ : ∃ k, whole = k + 1 := ⟨whole - 1, by omega⟩
  refine ⟨by simp, fun d hd => ?_, fun h => absurd h (by simpa using hhead)⟩
  rcases List.mem_append.1 hd with hd | hd
  · exact hds d (List.mem_of_mem_take hd)
  · rw [List.eq_of_mem_replicate hd]
    decide

/-- Digits after a point are those of a proper numeral. -/
theorem exists_numeral_point {front back : List Char} (hfront : Decimal.Leads front)
    (hback : ∀ c ∈ back, isDigit c = true) (hne : back ≠ []) :
    ∃ n : Decimal.Numeral, n.Proper ∧ n.negative = false ∧ n.chars = front ++ '.' :: back := by
  refine ⟨{ whole := front, fraction := back }, ⟨hfront, hback, by simp⟩, rfl, ?_⟩
  simp [Decimal.Numeral.chars, Decimal.Numeral.fractionChars, Decimal.Numeral.exponentChars, hne]

/-- One digit with an exponent is a proper numeral, whatever digits come
after the point. -/
theorem exists_numeral_exponent {d : Char} {more : List Char} (negative : Bool) (size : Nat)
    (hds : ∀ c ∈ d :: more, isDigit c = true) :
    ∃ n : Decimal.Numeral, n.Proper ∧ n.negative = false ∧
      n.chars = d :: (if more = [] then [] else '.' :: more) ++
        'e' :: (if negative then '-' else '+') :: digits size := by
  refine ⟨{ whole := [d], fraction := more, exponent := some (negative, digits size) },
    ⟨⟨by simp, fun c hc => hds c (List.mem_cons.2 (.inl (List.mem_singleton.1 hc))), ?_⟩,
      fun c hc => hds c (List.mem_cons_of_mem d hc), ?_⟩, rfl, ?_⟩
  · intro h
    rw [Option.some.inj h]
  · rintro e ⟨⟩
    exact ⟨Decimal.digits_ne_nil size, Decimal.isDigit_of_mem_digits size⟩
  · simp [Decimal.Numeral.chars, Decimal.Numeral.fractionChars, Decimal.Numeral.exponentChars]

/-- **The text of a shortest numeral is a proper numeral.** -/
theorem exists_numeral_render (h : 0 < m.digits) :
    ∃ n : Decimal.Numeral, n.Proper ∧ n.negative = false ∧ n.chars = m.render layout := by
  have hds := Decimal.isDigit_of_mem_digits m.digits
  have hne := Decimal.digits_ne_nil m.digits
  have hhead := Decimal.head?_digits h
  unfold Numeral.render
  generalize digits m.digits = ds at hds hne hhead
  simp only
  split
  -- without an exponent: a point behind a zero, or within the digits
  · split
    · refine exists_numeral_point (Decimal.leads_digits 0) (fun c hc => ?_) (by simp [hne])
      rcases List.mem_append.1 hc with hc | hc
      · rw [List.eq_of_mem_replicate hc]
        decide
      · exact hds c hc
    · refine exists_numeral_point (leads_front hds hne hhead (by omega)) (fun c hc => ?_) ?_
      · split at hc
        · rw [List.mem_singleton.1 hc]
          decide
        · exact hds c (List.mem_of_mem_drop hc)
      · split
        · simp
        · next hback => simpa using hback
  · obtain ⟨d, more, rfl⟩ := List.exists_cons_of_ne_nil hne
    obtain ⟨n, hn, hneg, hchars⟩ :=
      exists_numeral_exponent (decide (m.point - 1 < 0)) (m.point - 1).natAbs hds
    refine ⟨n, hn, hneg, hchars.trans ?_⟩
    cases more <;> simp

end Binary64

namespace Json

open Decimal (Stops)

variable {rest : List Char}

namespace Number

/-- **Every number is written as a proper numeral.** -/
theorem exists_numeral (x : Number) : ∃ n : Decimal.Numeral, n.Proper ∧ n.chars = x.chars := by
  cases x with
  | int i =>
    cases i with
    | ofNat k =>
      exact ⟨{ whole := Decimal.digits k }, ⟨Decimal.leads_digits k, by simp, by simp⟩,
        by simp [chars, Decimal.ofInt, Decimal.Numeral.chars, Decimal.Numeral.fractionChars,
          Decimal.Numeral.exponentChars]⟩
    | negSucc k =>
      exact ⟨{ negative := true, whole := Decimal.digits (k + 1) },
        ⟨Decimal.leads_digits (k + 1), by simp, by simp⟩,
        by simp [chars, Decimal.ofInt, Decimal.Numeral.chars, Decimal.Numeral.fractionChars,
          Decimal.Numeral.exponentChars]⟩
  | float x =>
    obtain ⟨n, hn, hneg, hchars⟩ : ∃ n : Decimal.Numeral, n.Proper ∧ n.negative = false ∧
        n.chars = if x.isZero then ['0', '.', '0'] else x.shortest.render numberLayout := by
      cases hz : x.isZero with
      | true =>
        have zero : Decimal.Leads ['0'] := Decimal.leads_digits 0
        exact Binary64.exists_numeral_point zero zero.digits zero.ne_nil
      | false => exact Binary64.exists_numeral_render (Binary64.shortest_digits_pos hz)
    refine ⟨{ n with negative := x.negative }, ⟨hn.whole, hn.fraction, hn.exponent⟩, ?_⟩
    have hsigned : Decimal.Numeral.chars { n with negative := x.negative } =
        (if x.negative then ['-'] else []) ++ n.chars := by
      simp [Decimal.Numeral.chars, Decimal.Numeral.fractionChars, Decimal.Numeral.exponentChars,
        hneg]
    rw [hsigned, hchars, chars, floatChars]
    cases x.isZero <;> rfl

/-- **The number as which a written number is read**; none when it is out
of range. -/
def reread? (x : Number) : Option Number :=
  (readNumeral x.chars).bind fun p => ofNumeral? p.1

/-- A written number is read back, up to where the text stops. -/
theorem readNumeral_chars (x : Number) (h : Stops rest) :
    ∃ n, readNumeral (x.chars ++ rest) = some (n, rest) ∧ ofNumeral? n = x.reread? := by
  obtain ⟨n, hn, hchars⟩ := x.exists_numeral
  have hown := Json.readNumeral_chars hn Decimal.stops_nil
  rw [List.append_nil, hchars] at hown
  refine ⟨n, hchars ▸ Json.readNumeral_chars hn h, ?_⟩
  rw [reread?, hown]
  rfl

/-- A written number begins with a sign or a digit. -/
theorem exists_head (x : Number) :
    ∃ c cs, x.chars = c :: cs ∧ (c = '-' ∨ Decimal.isDigit c = true) := by
  obtain ⟨n, hn, hchars⟩ := x.exists_numeral
  rw [← hchars]
  obtain ⟨c, ds, hwhole⟩ := List.exists_cons_of_ne_nil hn.whole.ne_nil
  unfold Decimal.Numeral.chars
  cases n.negative with
  | true => exact ⟨'-', _, rfl, .inl rfl⟩
  | false => exact ⟨c, _, by rw [hwhole]; rfl, .inr (hn.whole.digits c (by simp [hwhole]))⟩

end Number

end Json

end Flowchart
