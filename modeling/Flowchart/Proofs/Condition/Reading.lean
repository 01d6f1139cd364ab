import Flowchart.Condition
import Flowchart.Proofs.Decimal.Order
import Flowchart.Proofs.Text.Gap

/-!
# Conditions are read as they are written

An operand that holds no operator and no white space at its ends is
`Plain`. A condition that is written of two such operands, with white
space on either side of the operator, is cut at that operator
(`split?_written`), although `>` occurs in `>=`: an operator that is tried
earlier does not occur in a later one
(`Operator.not_infix_of_mem_earlier`). It then compares the operands as
its operator means it (`canonical_conditions`).
-/

namespace Flowchart

namespace Condition

variable {l r : String} {gap gap' : List Char}

/-- **An operand as it can be written down**: it holds no operator, and
there is no white space at its ends. -/
structure Plain (s : String) : Prop where
  /-- No operator occurs in it. -/
  free : ∀ op : Operator, ¬ op.token.toList <:+: s.toList
  /-- There is nothing to trim. -/
  trimmed : Text.trimBy Text.isBlank s.toList = s.toList

instance (s : String) : Decidable (Plain s) :=
  decidable_of_iff ((∀ op ∈ Operator.all, ¬ op.token.toList <:+: s.toList) ∧
      Text.trimBy Text.isBlank s.toList = s.toList)
    ⟨fun h => ⟨fun op => h.1 op (by cases op <;> decide), h.2⟩,
      fun h => ⟨fun op _ => h.free op, h.trimmed⟩⟩

/-- Some white space. -/
structure Space (gap : List Char) : Prop where
  /-- There is some. -/
  ne_nil : gap ≠ []
  /-- There is nothing else. -/
  blank : ∀ c ∈ gap, Text.isBlank c = true

instance (gap : List Char) : Decidable (Space gap) :=
  decidable_of_iff (gap ≠ [] ∧ gap.all Text.isBlank = true)
    ⟨fun h => ⟨h.1, List.all_eq_true.1 h.2⟩, fun h => ⟨h.ne_nil, List.all_eq_true.2 h.blank⟩⟩

/-- A condition of two operands with its operator between them. -/
def written (l : String) (gap : List Char) (op : Operator) (gap' : List Char) (r : String) :
    String :=
  String.ofList ((l.toList ++ gap) ++ (op.token.toList ++ (gap' ++ r.toList)))

/-! ## Tokens -/

namespace Operator

theorem token_ne_nil (op : Operator) : op.token.toList ≠ [] := by
  cases op <;> decide

/-- No operator holds white space. -/
theorem not_blank_of_mem_token (op : Operator) :
    ∀ c ∈ op.token.toList, Text.isBlank c = false := by
  have hall : op.token.toList.all (fun c => !Text.isBlank c) = true := by cases op <;> decide
  exact fun c hc => by simpa using List.all_eq_true.1 hall c hc

/-- The operators that are tried before another one. -/
def earlier (op : Operator) : List Operator :=
  all.takeWhile (· ≠ op)

theorem all_eq_append (op : Operator) :
    all = op.earlier ++ op :: (all.dropWhile (· ≠ op)).tail := by
  cases op <;> rfl

/-- **An operator that is tried earlier does not occur in a later one.** -/
theorem not_infix_of_mem_earlier (op : Operator) :
    ∀ k ∈ op.earlier, ¬ k.token.toList <:+: op.token.toList := by
  cases op <;> decide

end Operator

/-! ## The cut -/

/-- No operator holds a character of a gap. -/
theorem Space.apart (hg : Space gap) (op : Operator) : ∀ c ∈ gap, c ∉ op.token.toList :=
  fun c hc hop =>
    Bool.false_ne_true ((op.not_blank_of_mem_token c hop).symm.trans (hg.blank c hc))

/-- **A plain operand does not hide an operator**: what occurs in a
condition occurs in one of its operands or in the operator. -/
theorem occurs_written (k op : Operator) (hg : Space gap) (hg' : Space gap')
    (h : k.token.toList <:+: (written l gap op gap' r).toList) :
    k.token.toList <:+: l.toList ∨ k.token.toList <:+: op.token.toList ∨
      k.token.toList <:+: r.toList := by
  rw [written, String.toList_ofList, List.append_assoc] at h
  refine (Text.infix_gap hg.ne_nil (hg.apart k) h).imp_right fun h => ?_
  exact Text.infix_gap hg'.ne_nil (hg'.apart k) h

/-- A plain condition is cut at its operator, if that is tried. -/
theorem splitAt?_written (op : Operator) (hl : Plain l) (hr : Plain r) (hg : Space gap)
    (hg' : Space gap') : splitAt? (written l gap op gap' r).toList op =
      some (op, l.toList ++ gap, gap' ++ r.toList) := by
  rw [written, String.toList_ofList, splitAt?, Text.pieces_gap op.token_ne_nil hg.ne_nil hg'.ne_nil
    (hg.apart op) (hg'.apart op) (hl.free op) (hr.free op)]

/-- **A plain condition is cut at its operator.** -/
theorem split?_written (op : Operator) (hl : Plain l) (hr : Plain r) (hg : Space gap)
    (hg' : Space gap') : split? (written l gap op gap' r) =
      some (op, l.toList ++ gap, gap' ++ r.toList) := by
  refine List.findSome?_eq_some_iff.2
    ⟨_, op, _, op.all_eq_append, splitAt?_written op hl hr hg hg', fun k hk => ?_⟩
  have hfree : ¬ k.token.toList <:+: (written l gap op gap' r).toList := fun h => by
    rcases occurs_written k op hg hg' h with h | h | h
    · exact hl.free k h
    · exact op.not_infix_of_mem_earlier k hk h
    · exact hr.free k h
  rw [splitAt?, Text.pieces_of_not_infix hfree]

/-- The text without the quotes at its ends. -/
def unquoted (s : String) : String :=
  String.ofList (Text.trimBy isQuote s.toList)

/-- **A plain condition compares its operands**, of which the right one
has lost its quotes. -/
theorem evaluate_written (op : Operator) (hl : Plain l) (hr : Plain r) (hg : Space gap)
    (hg' : Space gap') (state : StateMap) : evaluate (written l gap op gap' r) state =
      compare op (resolve l state) (resolve (unquoted r) state) := by
  simp only [evaluate, split?_written op hl hr hg hg', Text.trimBy_append hg.blank,
    Text.trimBy_prepend hg'.blank, hl.trimmed, hr.trimmed, String.ofList_toList, unquoted]

/-! ## What the comparisons mean -/

/-- **The finite number that a value denotes.** A number denotes the
binary number next to it, and a text the one that it is a numeral of. -/
inductive Denotes : Json → Binary64 → Prop where
  | number (n : Json.Number) : Denotes (.number n) (ofNumber n)
  | text {s : String} {x : Binary64} (h : Decimal.finite? (Text.trim s).toList = some x) :
      Denotes (.string s) x

variable {left right : Operand} {x y : Binary64} {e : Error}

theorem number?_eq_some_iff : left.number? = some x ↔ Denotes left.value x := by
  obtain ⟨text, value⟩ := left
  constructor
  · intro h
    cases value with
    | number n => exact Option.some.inj h ▸ .number n
    | string s => exact .text h
    | _ => cases h
  · rintro (n | h)
    · rfl
    · exact h

theorem number_eq_ok_iff : left.number = .ok x ↔ Denotes left.value x := by
  rw [← number?_eq_some_iff, Operand.number]
  cases left.number? <;> simp

theorem number_eq_error_iff :
    left.number = .error e ↔ (¬ ∃ x, Denotes left.value x) ∧ e = ⟨left.text, left.value⟩ := by
  simp only [← number?_eq_some_iff, Operand.number]
  cases left.number? <;> simp [eq_comm]

/-- **Two numbers are compared as what they are.** -/
theorem compareNumbers_of_denotes (hx : Denotes left.value x) (hy : Denotes right.value y) :
    compareNumbers left right = .ok (x.compare y) := by
  simp only [compareNumbers, number_eq_ok_iff.2 hx, number_eq_ok_iff.2 hy]

/-- **A comparison of numbers fails** with the first operand that denotes
none. -/
theorem compareNumbers_eq_error_iff : compareNumbers left right = .error e ↔
    (¬ ∃ x, Denotes left.value x) ∧ e = ⟨left.text, left.value⟩ ∨
    (∃ x, Denotes left.value x) ∧ (¬ ∃ y, Denotes right.value y) ∧
      e = ⟨right.text, right.value⟩ := by
  have hright : right.number = .error e ↔ _ := number_eq_error_iff
  rw [← number_eq_error_iff, ← hright, compareNumbers]
  cases hl : left.number with
  | error e' =>
    have hnone : ¬ ∃ x, Denotes left.value x := (number_eq_error_iff.1 hl).1
    simp [hnone]
  | ok x =>
    have hsome : ∃ x, Denotes left.value x := ⟨x, number_eq_ok_iff.1 hl⟩
    cases right.number <;> simp [hsome]

/-- The comparisons of numbers. -/
def Operator.Numeric (op : Operator) : Prop :=
  op = .gt ∨ op = .ge ∨ op = .lt ∨ op = .le

/-- **A comparison fails** only as a comparison of numbers. -/
theorem compare_eq_error_iff {op : Operator} (h : op.Numeric) :
    compare op left right = .error e ↔ compareNumbers left right = .error e := by
  have hmap : ∃ f, compare op left right = (compareNumbers left right).map f := by
    rcases h with rfl | rfl | rfl | rfl <;> exact ⟨_, rfl⟩
  obtain ⟨f, hf⟩ := hmap
  rw [hf]
  cases compareNumbers left right <;> simp [Except.map]

/-- **The comparisons of numbers** are those of the rational numbers. -/
theorem compare_of_denotes (hx : Denotes left.value x) (hy : Denotes right.value y) :
    compare .gt left right = .ok (decide (y.value < x.value)) ∧
    compare .ge left right = .ok (decide (y.value ≤ x.value)) ∧
    compare .lt left right = .ok (decide (x.value < y.value)) ∧
    compare .le left right = .ok (decide (x.value ≤ y.value)) := by
  simp only [compare, compareNumbers_of_denotes hx hy, Except.map, Binary64.isGT_compare,
    Binary64.isGE_compare, Binary64.isLT_compare, Binary64.isLE_compare, and_self]

/-- **The comparisons of texts** are those of the display texts. -/
theorem compare_texts (left right : Operand) :
    let l := left.value.display
    let r := right.value.display
    compare .eq left right = .ok (decide (l = r)) ∧
    compare .ne left right = .ok (decide (l ≠ r)) ∧
    compare .contains left right = .ok (decide (r.toList <:+: l.toList)) ∧
    compare .startsWith left right = .ok (decide (r.toList <+: l.toList)) ∧
    compare .endsWith left right = .ok (decide (r.toList <:+ l.toList)) := by
  intro l r
  refine ⟨?_, ?_, ?_, ?_, ?_⟩ <;> refine congrArg Except.ok ?_
  · exact beq_eq_decide l r
  · exact Bool.eq_iff_iff.2 (bne_iff_ne.trans decide_eq_true_iff.symm)
  · exact Bool.eq_iff_iff.2 (Text.occurs_iff.trans decide_eq_true_iff.symm)
  · exact Bool.eq_iff_iff.2 (Text.starts_iff.trans decide_eq_true_iff.symm)
  · exact Bool.eq_iff_iff.2 (Text.ends_iff.trans decide_eq_true_iff.symm)

/-- **Three comparisons are the negations of others**, failures included. -/
theorem compare_negations (left right : Operand) :
    compare .ne left right = (compare .eq left right).map not ∧
    compare .lt left right = (compare .ge left right).map not ∧
    compare .gt left right = (compare .le left right).map not := by
  refine ⟨rfl, ?_, ?_⟩
  all_goals
    simp only [compare]
    cases compareNumbers left right with
    | error e => rfl
    | ok o => cases o <;> rfl

/-! ## The main statement -/

/-- **Plain conditions are read as they are written.** A condition of two
plain operands, with white space on either side of the operator, is cut at
that operator. Let the left operand and the right one without its quotes
stand for two values. Then `==`, `!=`, `contains`, `startsWith` and
`endsWith` compare the display texts of the values, and the other
operators compare the numbers that they denote. Such a comparison fails
just if one of the values denotes no number, and names the first of them.
The negations are the ones that the signs suggest. -/
theorem canonical_conditions (hl : Plain l) (hr : Plain r) (hg : Space gap) (hg' : Space gap')
    (state : StateMap) :
    let verdict := fun op => evaluate (written l gap op gap' r) state
    let left := resolveValue l state
    let right := resolveValue (unquoted r) state
    (∀ op, split? (written l gap op gap' r) = some (op, l.toList ++ gap, gap' ++ r.toList)) ∧
    verdict .eq = .ok (decide (left.display = right.display)) ∧
    verdict .ne = .ok (decide (left.display ≠ right.display)) ∧
    verdict .contains = .ok (decide (right.display.toList <:+: left.display.toList)) ∧
    verdict .startsWith = .ok (decide (right.display.toList <+: left.display.toList)) ∧
    verdict .endsWith = .ok (decide (right.display.toList <:+ left.display.toList)) ∧
    (∀ x y, Denotes left x → Denotes right y →
      verdict .gt = .ok (decide (y.value < x.value)) ∧
      verdict .ge = .ok (decide (y.value ≤ x.value)) ∧
      verdict .lt = .ok (decide (x.value < y.value)) ∧
      verdict .le = .ok (decide (x.value ≤ y.value))) ∧
    (∀ op e, Operator.Numeric op → (verdict op = .error e ↔
      (¬ ∃ x, Denotes left x) ∧ e = ⟨l, left⟩ ∨
      (∃ x, Denotes left x) ∧ (¬ ∃ y, Denotes right y) ∧ e = ⟨unquoted r, right⟩)) ∧
    verdict .ne = (verdict .eq).map not ∧
    verdict .lt = (verdict .ge).map not ∧
    verdict .gt = (verdict .le).map not := by
  intro verdict left right
  have hverdict : ∀ op, verdict op = compare op (resolve l state) (resolve (unquoted r) state) :=
    fun op => evaluate_written op hl hr hg hg' state
  obtain ⟨heq, hne, hcontains, hstarts, hends⟩ :=
    compare_texts (resolve l state) (resolve (unquoted r) state)
  simp only [hverdict]
  refine ⟨fun op => split?_written op hl hr hg hg', heq, hne, hcontains, hstarts, hends,
    fun x y hx hy => compare_of_denotes hx hy, fun op e hop => ?_, compare_negations _ _⟩
  exact (compare_eq_error_iff hop).trans compareNumbers_eq_error_iff

/-- **An age is compared** with a number and with a word. The age is a
text with a space in front of it, and the number is quoted. -/
theorem age_conditions :
    let state := StateMap.ofEntries [("age", .string " 20")]
    evaluate "age  >=\t'18'" state = .ok true ∧
    evaluate "age < adult" state = .error ⟨"adult", .string "adult"⟩ := by
  intro state
  have hage : Denotes (resolveValue "age" state) (Binary64.ofInt 20) :=
    .text (by decide +kernel)
  have hword : ¬ ∃ y, Denotes (resolveValue "adult" state) y := by
    have hvalue : resolveValue "adult" state = .string "adult" := by decide +kernel
    have hnone : Decimal.finite? (Text.trim "adult").toList = none := by decide +kernel
    rintro ⟨y, h⟩
    rw [hvalue] at h
    obtain - | h := h
    rw [hnone] at h
    cases h
  have hl : Plain "age" := by decide +kernel
  have hspace : Space [' '] := by decide +kernel
  have hquoted : Plain "'18'" := by decide +kernel
  have hadult : Plain "adult" := by decide +kernel
  have hwide : Space [' ', ' '] := by decide +kernel
  have htab : Space ['\t'] := by decide +kernel
  obtain ⟨-, -, -, -, -, -, hnumbers, -⟩ := canonical_conditions hl hquoted hwide htab state
  obtain ⟨-, -, -, -, -, -, -, herror, -⟩ := canonical_conditions hl hadult hspace hspace state
  refine ⟨?_, (herror .lt _ (.inr (.inr (.inl rfl)))).2 (.inr ⟨⟨_, hage⟩, hword, rfl⟩)⟩
  have h18 : resolveValue (unquoted "'18'") state = .number (.int 18) := by decide +kernel
  refine (hnumbers _ (Binary64.ofInt 18) hage (h18 ▸ .number (.int 18))).2.1.trans ?_
  decide +kernel

end Condition

end Flowchart
