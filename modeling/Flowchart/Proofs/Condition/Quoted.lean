import Flowchart.Proofs.Condition.Reading
import Flowchart.Proofs.Decimal.Spelling
import Flowchart.Proofs.Step.Question

/-!
# Quoted texts

The quotes of the right operand are taken off before it is read, so a
quoted text that is no variable is read like any other: as a number or a
truth value if it spells one. It is then compared as what that is shown
as, which is the text itself just if it is spelt as the number or truth
value is written (`shown_eq_iff`).
-/

namespace Flowchart

namespace Condition

variable {x t : String} {state : StateMap} {v : Json} {q : Char} {gap gap' : List Char}

/-- What a text stands for that is no variable. -/
def literal (t : String) : Json :=
  resolveValue t .empty

/-- What a text is shown as that is no variable. -/
def shown (t : String) : String :=
  (literal t).display

/-- A truth value as it is written. -/
def word : Bool → String
  | true => "true"
  | false => "false"

/-- **The text is spelt as it is shown**: if it is a number or a truth
value, it is the text that this one is written as. -/
structure SpeltAsShown (t : String) : Prop where
  /-- An integer has the usual spelling. -/
  integer : ∀ i, integer? t.toList = some i → Decimal.Usual t.toList
  /-- Another number is the shortest numeral of its value. -/
  binary : ∀ x, integer? t.toList = none → Decimal.finite? t.toList = some x →
    t.toList = Json.floatChars x
  /-- A truth value is in lower case. -/
  truth : ∀ b, Text.sameWord t (word b) = true → t = word b

/-! ## What a text is shown as -/

theorem resolveValue_of_find?_eq_none (h : state.find? t = none) :
    resolveValue t state = literal t := by
  rw [literal, resolveValue, resolveValue, h, SortedMap.find?_empty]

theorem shown_of_integer {i : Int} (h : integer? t.toList = some i) :
    shown t = String.ofList (Decimal.ofInt i) := by
  simp only [shown, literal, resolveValue, SortedMap.find?_empty, h]
  rfl

theorem shown_of_binary {x : Binary64} (h : integer? t.toList = none)
    (hx : Decimal.finite? t.toList = some x) : shown t = String.ofList (Json.floatChars x) := by
  simp only [shown, literal, resolveValue, SortedMap.find?_empty, h, hx]
  rfl

/-- No number begins with a letter of either word. -/
theorem not_opens_of_toLower {c : Char} (h : c.toLower = 't' ∨ c.toLower = 'f') :
    ¬ Decimal.Opens c := by
  have hdigits : ∀ d < 10, (Decimal.digitChar d).toLower ≠ 't' ∧
      (Decimal.digitChar d).toLower ≠ 'f' := by decide
  rintro (rfl | rfl | rfl | hdigit)
  · revert h; decide
  · revert h; decide
  · revert h; decide
  · obtain ⟨d, hd, -, rfl⟩ := Decimal.exists_digit hdigit
    exact h.elim (hdigits d hd).1 (hdigits d hd).2

/-- A truth value in any case is no number. -/
theorem no_number_of_sameWord {b : Bool} (h : Text.sameWord t (word b) = true) :
    integer? t.toList = none ∧ Decimal.finite? t.toList = none := by
  obtain ⟨c, rest, hc, hletter⟩ : ∃ c rest, t.toList = c :: rest ∧
      (c.toLower = 't' ∨ c.toLower = 'f') := by
    have hmap : t.toList.map Char.toLower = (word b).toList.map Char.toLower := eq_of_beq h
    cases b <;> obtain ⟨c, rest, hc, hlower, -⟩ := List.map_eq_cons_iff.1 hmap
    · exact ⟨c, rest, hc, .inr hlower⟩
    · exact ⟨c, rest, hc, .inl hlower⟩
  have hopens := not_opens_of_toLower hletter
  rw [hc, integer?, Decimal.integer?_eq_none hopens, Decimal.finite?_eq_none hopens]
  exact ⟨rfl, rfl⟩

theorem shown_of_sameWord {b : Bool} (h : Text.sameWord t (word b) = true) :
    shown t = word b := by
  obtain ⟨hint, hfinite⟩ := no_number_of_sameWord h
  have hvalue : literal t = .bool b := by
    simp only [literal, resolveValue, SortedMap.find?_empty, hint, hfinite]
    cases b with
    | true => exact if_pos h
    | false =>
      have hfalse : t.toList.map Char.toLower = "false".toList.map Char.toLower := eq_of_beq h
      have hno : ¬ Text.sameWord t "true" = true := fun htrue =>
        absurd (hfalse.symm.trans (eq_of_beq htrue)) (by decide)
      exact (if_neg hno).trans (if_pos h)
  rw [shown, hvalue]
  cases b <;> rfl

/-- Any other text is shown as it is. -/
theorem shown_of_text (hint : integer? t.toList = none) (hfinite : Decimal.finite? t.toList = none)
    (hword : ∀ b, Text.sameWord t (word b) = false) : shown t = t := by
  have htrue : Text.sameWord t "true" = false := hword true
  have hfalse : Text.sameWord t "false" = false := hword false
  simp [shown, literal, resolveValue, hint, hfinite, htrue, hfalse, Json.display]

theorem ofInt_eq_toList_iff {i : Int} (h : integer? t.toList = some i) :
    Decimal.ofInt i = t.toList ↔ Decimal.Usual t.toList :=
  Decimal.ofInt_eq_iff (Option.filter_eq_some_iff.1 h).1

/-- **A text is shown as itself** just if it is spelt as it is shown. -/
theorem shown_eq_iff (t : String) : shown t = t ↔ SpeltAsShown t := by
  have hofList : ∀ ds, String.ofList ds = t ↔ ds = t.toList := fun ds => by
    rw [← String.toList_inj, String.toList_ofList]
  constructor
  · intro h
    exact {
      integer := fun i hi => (ofInt_eq_toList_iff hi).1 <|
        (hofList _).1 ((shown_of_integer hi).symm.trans h)
      binary := fun x hint hx => ((hofList _).1 ((shown_of_binary hint hx).symm.trans h)).symm
      truth := fun b hb => h.symm.trans (shown_of_sameWord hb) }
  · intro h
    cases hint : integer? t.toList with
    | some i =>
      rw [shown_of_integer hint, hofList]
      exact (ofInt_eq_toList_iff hint).2 (h.integer i hint)
    | none =>
      cases hfinite : Decimal.finite? t.toList with
      | some y =>
        rw [shown_of_binary hint hfinite, hofList]
        exact (h.binary y hint hfinite).symm
      | none =>
        by_cases hword : ∃ b, Text.sameWord t (word b) = true
        · obtain ⟨b, hb⟩ := hword
          exact (shown_of_sameWord hb).trans (h.truth b hb).symm
        · exact shown_of_text hint hfinite fun b => by simpa using fun hb => hword ⟨b, hb⟩

instance (t : String) : Decidable (SpeltAsShown t) :=
  decidable_of_iff (shown t = t) (shown_eq_iff t)

/-! ## Conditions with a quoted text -/

/-- A text between two quotes. -/
def quotedBy (q : Char) (t : String) : String :=
  String.ofList (q :: (t.toList ++ [q]))

/-- A quote occurs in no operator, and is no white space. -/
theorem apart_of_isQuote (hq : isQuote q = true) :
    (∀ op : Operator, q ∉ op.token.toList) ∧ Text.isBlank q = false := by
  have hquote : q = '\'' ∨ q = '"' := by simpa [isQuote] using hq
  rcases hquote with rfl | rfl
  · exact ⟨fun op => by cases op <;> decide, by decide⟩
  · exact ⟨fun op => by cases op <;> decide, by decide⟩

/-- **A quoted text is plain** if it holds no operator. -/
theorem plain_quotedBy (hq : isQuote q = true)
    (ht : ∀ op : Operator, ¬ op.token.toList <:+: t.toList) : Plain (quotedBy q t) := by
  obtain ⟨hapart, hblank⟩ := apart_of_isQuote hq
  refine ⟨fun op h => ?_, ?_⟩
  · -- a match lies on one side of either quote
    rw [quotedBy, String.toList_ofList] at h
    rcases Text.infix_of_not_mem (x := []) (hapart op) h with h | h
    · exact op.token_ne_nil (List.infix_nil.1 h)
    · rcases Text.infix_of_not_mem (hapart op) h with h | h
      · exact ht op h
      · exact op.token_ne_nil (List.infix_nil.1 h)
  · rw [quotedBy, String.toList_ofList]
    exact Text.trimBy_between hblank hblank

/-- The quotes are taken off again. -/
theorem unquoted_quotedBy (hq : isQuote q = true) (ht : Text.trimBy isQuote t.toList = t.toList) :
    unquoted (quotedBy q t) = t := by
  have hgap : ∀ c ∈ [q], isQuote c = true := fun c hc => List.mem_singleton.1 hc ▸ hq
  have hquoted : (quotedBy q t).toList = [q] ++ (t.toList ++ [q]) := String.toList_ofList
  rw [unquoted, hquoted, Text.trimBy_prepend hgap, Text.trimBy_append hgap, ht,
    String.ofList_toList]

open Step in
/-- **A quoted text is compared as it is shown.** Let a variable be
compared with a text in quotes that holds no operator, has no quotes at
its ends and is no variable. The comparison is the one of the display text
of the variable with what the text is shown as. This is the text itself
just if it is spelt so; in particular, an answer that a question has
stored is equal to the quoted text of the same characters just if that is
spelt as it is shown. -/
theorem quoted_texts_as_shown (hx : Plain x) (ht : ∀ op : Operator, ¬ op.token.toList <:+: t.toList)
    (hends : Text.trimBy isQuote t.toList = t.toList) (hq : isQuote q = true) (hg : Space gap)
    (hg' : Space gap') :
    let verdict := fun op state => evaluate (written x gap op gap' (quotedBy q t)) state
    (∀ state v, state.find? x = some v → state.find? t = none →
      verdict .eq state = .ok (decide (v.display = shown t)) ∧
      verdict .ne state = .ok (decide (v.display ≠ shown t)) ∧
      verdict .contains state = .ok (decide ((shown t).toList <:+: v.display.toList)) ∧
      verdict .startsWith state = .ok (decide ((shown t).toList <+: v.display.toList)) ∧
      verdict .endsWith state = .ok (decide ((shown t).toList <:+ v.display.toList))) ∧
    (shown t = t ↔ SpeltAsShown t) ∧
    (∀ (input : Input) (r : Result) (answer : Json), Question.run input = .ok r →
      r.requiresInput = false → input.config.textOr "stateKey" Question.defaultKey = .ok x →
      input.answer = some answer → answer.display = t →
      (input.state.overlay r.updates).find? t = none →
      verdict .eq (input.state.overlay r.updates) = .ok (decide (SpeltAsShown t))) := by
  intro verdict
  have hverdict : ∀ op state v, state.find? x = some v → state.find? t = none →
      verdict op state = compare op ⟨x, v⟩ ⟨t, literal t⟩ := by
    intro op state v hv hnone
    have hleft : resolve x state = ⟨x, v⟩ := by rw [resolve, resolveValue, hv]
    have hright : resolve t state = ⟨t, literal t⟩ := by
      rw [resolve, resolveValue_of_find?_eq_none hnone]
    rw [← hleft, ← hright]
    refine (evaluate_written op hx (plain_quotedBy hq ht) hg hg' state).trans ?_
    rw [unquoted_quotedBy hq hends]
  refine ⟨fun state v hv hnone => ?_, shown_eq_iff t, ?_⟩
  · simp only [fun op => hverdict op state v hv hnone]
    exact compare_texts ⟨x, v⟩ ⟨t, literal t⟩
  · rintro input r answer hrun hr hkey hanswer rfl hnone
    obtain ⟨key, answer', hkey', hanswer', -, hupdates⟩ := Question.taken_of_run hrun hr
    obtain rfl : key = x := Except.ok.inj (hkey'.symm.trans hkey)
    obtain rfl : answer' = answer := Option.some.inj (hanswer'.symm.trans hanswer)
    have hstored : (input.state.overlay r.updates).find? key =
        some (.string answer'.display) := by
      rw [hupdates]
      exact (SortedMap.find?_insert _ _ _ _).trans (if_pos rfl)
    rw [hverdict .eq _ _ hstored hnone, (compare_texts _ _).1]
    refine congrArg Except.ok (decide_eq_decide.2 ?_)
    rw [← shown_eq_iff]
    exact eq_comm

/-! ## Codes with zeros in front -/

/-- A question is answered with a code. -/
def codeInput (code : String) : Step.Input where
  nodeId := "q"
  config := { entries := [("stateKey", .string "code")] }
  state := .empty
  answer := some (.string code)

/-- The state after a question that has stored a code. -/
def codeState (code : String) : StateMap :=
  .ofEntries [("code", .string code)]

/-- **A code is found** if it has no zeros in front, and a code with zeros
in front is not. -/
theorem codes_are_compared_as_shown :
    evaluate "code == '12'" (codeState "12") = .ok true ∧
    evaluate "code != '12'" (codeState "012") = .ok true ∧
    evaluate "code == '012'" ((codeInput "012").state.overlay (codeState "012")) = .ok false := by
  have hcode : Plain "code" := by decide +kernel
  have hspace : Space [' '] := by decide +kernel
  obtain ⟨htexts, -, -⟩ := quoted_texts_as_shown (t := "12") (q := '\'') hcode
    (by decide +kernel : Plain "12").free (by decide) (by decide) hspace hspace
  obtain ⟨-, -, hstored⟩ := quoted_texts_as_shown (t := "012") (q := '\'') hcode
    (by decide +kernel : Plain "012").free (by decide) (by decide) hspace hspace
  refine ⟨(htexts _ (.string "12") (by decide) (by decide)).1.trans (by decide +kernel),
    (htexts _ (.string "012") (by decide) (by decide)).2.1.trans (by decide +kernel), ?_⟩
  refine (hstored (codeInput "012") (Step.Question.taken Step.Question.defaultPrompt "code" "012")
    (.string "012") (by decide +kernel) rfl (by decide +kernel) rfl rfl
    (by decide +kernel)).trans (by decide +kernel)

/-- **A code with zeros in front is not found**: a question stores it as it
is, and nothing stands under it, but the quoted text of the same
characters is read as a number and loses its zeros. -/
theorem quoted_code_loses_zeros :
    Plain "code" ∧ Plain "007" ∧ Text.trimBy isQuote "007".toList = "007".toList ∧
    Step.Question.run (codeInput "007") =
      .ok (Step.Question.taken Step.Question.defaultPrompt "code" "007") ∧
    (codeState "007").find? "code" = some (.string "007") ∧
    (codeState "007").find? "007" = none ∧
    evaluate "code == '007'" (codeState "007") = .ok false ∧
    evaluate "code != '007'" (codeState "007") = .ok true := by
  decide +kernel

end Condition

end Flowchart
