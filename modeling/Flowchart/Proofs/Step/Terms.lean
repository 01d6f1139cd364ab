import Flowchart.Proofs.Step.Question
import Mathlib.Logic.Basic

/-!
# The terms of a question

The rules of a question are read as `Terms`. An answer keeps them all
(`Terms.Accepts`), or there is a first one that it breaks
(`Terms.FirstBroken`), or they cannot be judged, as the pattern is none
(`Terms.Unreadable`); no answer is left out (`Terms.cases`). What a
question makes of an answer follows from which it is.
-/

namespace Flowchart

namespace Step

namespace Question

/-- What a question asks of an answer. -/
structure Terms where
  /-- It must not be blank. -/
  required : Bool := false
  /-- How many characters it has at least. -/
  least : Option Nat := none
  /-- How many characters it has at most. -/
  greatest : Option Nat := none
  /-- What some part of it matches. -/
  pattern : Option String := none

namespace Terms

/-- **The terms are those of a configuration.** -/
structure AreOf (t : Terms) (rules : NodeConfig) : Prop where
  required : ∃ required?, rules.bool? "required" = .ok required? ∧ required?.getD false = t.required
  least : rules.natural? "minLength" = .ok t.least
  greatest : rules.natural? "maxLength" = .ok t.greatest
  pattern : rules.text? "pattern" = .ok t.pattern

/-- A required answer has a character that is not white space. -/
def Present (t : Terms) (answer : String) : Prop :=
  t.required = true → ∃ c ∈ answer.toList, Text.isBlank c = false

/-- The answer has as many characters as it needs. -/
def LongEnough (t : Terms) (answer : String) : Prop :=
  ∀ n ∈ t.least, n ≤ answer.length

/-- The answer has no more characters than it may have. -/
def ShortEnough (t : Terms) (answer : String) : Prop :=
  ∀ n ∈ t.greatest, answer.length ≤ n

/-- The pattern can be read, and some part of the answer matches it. -/
def Matches (t : Terms) (answer : String) : Prop :=
  ∀ p ∈ t.pattern, ∃ pattern, Pattern.ofText? p = some pattern ∧ pattern.matchesIn answer = true

/-- **The answer keeps all the terms.** -/
structure Accepts (t : Terms) (answer : String) : Prop where
  present : t.Present answer
  longEnough : t.LongEnough answer
  shortEnough : t.ShortEnough answer
  matching : t.Matches answer

/-- **The first of the terms that the answer breaks**, as it is said;
`own` is what the question says of a pattern that is not matched. -/
inductive FirstBroken (t : Terms) (own : Option String) (answer : String) : String → Prop where
  /-- The answer is blank. -/
  | absent (h : ¬ t.Present answer) : t.FirstBroken own answer "This field is required."
  /-- The answer is too short. -/
  | short {n : Nat} (hp : t.Present answer) (hn : t.least = some n) (h : answer.length < n) :
    t.FirstBroken own answer ("Input must be at least " ++ decimal n ++ " characters.")
  /-- The answer is too long. -/
  | long {n : Nat} (hp : t.Present answer) (hl : t.LongEnough answer) (hn : t.greatest = some n)
    (h : n < answer.length) :
    t.FirstBroken own answer ("Input must not exceed " ++ decimal n ++ " characters.")
  /-- No part of the answer matches the pattern. -/
  | unmatched {p : String} {pattern : Pattern} (hp : t.Present answer) (hl : t.LongEnough answer)
    (hs : t.ShortEnough answer) (hpattern : t.pattern = some p)
    (hread : Pattern.ofText? p = some pattern) (h : pattern.matchesIn answer = false) :
    t.FirstBroken own answer (own.getD "Input does not match the required format.")

/-- **The answer cannot be judged**: it keeps the first three terms, and
the pattern is none. -/
structure Unreadable (t : Terms) (answer : String) : Prop where
  present : t.Present answer
  longEnough : t.LongEnough answer
  shortEnough : t.ShortEnough answer
  pattern : ∃ p, t.pattern = some p ∧ Pattern.ofText? p = none

/-- **An answer keeps the terms, or breaks one first, or cannot be
judged.** -/
theorem cases (t : Terms) (own : Option String) (answer : String) :
    t.Accepts answer ∨ (∃ reason, t.FirstBroken own answer reason) ∨ t.Unreadable answer := by
  by_cases hp : t.Present answer
  case neg => exact .inr (.inl ⟨_, .absent hp⟩)
  by_cases hl : t.LongEnough answer
  case neg =>
    obtain ⟨n, hn, hlt⟩ : ∃ n ∈ t.least, ¬ n ≤ answer.length := by
      simpa only [LongEnough, not_forall, exists_prop] using hl
    exact .inr (.inl ⟨_, .short hp hn (Nat.lt_of_not_le hlt)⟩)
  by_cases hs : t.ShortEnough answer
  case neg =>
    obtain ⟨n, hn, hlt⟩ : ∃ n ∈ t.greatest, ¬ answer.length ≤ n := by
      simpa only [ShortEnough, not_forall, exists_prop] using hs
    exact .inr (.inl ⟨_, .long hp hl hn (Nat.lt_of_not_le hlt)⟩)
  cases hpattern : t.pattern with
  | none => exact .inl ⟨hp, hl, hs, by simp [Matches, hpattern]⟩
  | some p =>
    cases hread : Pattern.ofText? p with
    | none => exact .inr (.inr ⟨hp, hl, hs, p, hpattern, hread⟩)
    | some pattern =>
      cases hmatches : pattern.matchesIn answer with
      | false => exact .inr (.inl ⟨_, .unmatched hp hl hs hpattern hread hmatches⟩)
      | true =>
        refine .inl ⟨hp, hl, hs, fun q hq => ⟨pattern, ?_, hmatches⟩⟩
        obtain rfl : p = q := Option.some.inj (hpattern.symm.trans hq)
        exact hread

end Terms

variable {rules config : NodeConfig} {t : Terms} {answer reason text key p : String}
variable {own : Option String} {pattern : Pattern} {input : Input} {value : Json} {r : Result}
variable {n : Nat}
variable {rule : NodeConfig → String → Except Error (Option String)}
variable {before after : List (NodeConfig → String → Except Error (Option String))}

/-! ## Rules -/

theorem requiredRule_eq_none_iff (h : t.AreOf rules) :
    requiredRule rules answer = .ok none ↔ t.Present answer := by
  obtain ⟨required?, hrequired, hterm⟩ := h.required
  simp only [requiredRule, hrequired, configured_ok, bind, Except.bind, pure, Except.pure, hterm]
  cases ht : t.required <;> simp [Terms.Present, Text.allBlank, ht]

theorem requiredRule_of_absent (h : t.AreOf rules) (hp : ¬ t.Present answer) :
    requiredRule rules answer = .ok (some "This field is required.") := by
  obtain ⟨required?, hrequired, hterm⟩ := h.required
  simp only [requiredRule, hrequired, configured_ok, bind, Except.bind, pure, Except.pure, hterm]
  have hboth : (t.required && Text.allBlank answer) = true := by
    simpa [Terms.Present, Text.allBlank] using hp
  rw [if_pos hboth]

theorem leastRule_eq_none_iff (h : t.AreOf rules) :
    leastRule rules answer = .ok none ↔ t.LongEnough answer := by
  simp only [leastRule, h.least, configured_ok, bind, Except.bind, pure, Except.pure,
    Terms.LongEnough]
  cases t.least <;> simp

theorem leastRule_of_short (h : t.AreOf rules) (hn : t.least = some n) (hlt : answer.length < n) :
    leastRule rules answer =
      .ok (some ("Input must be at least " ++ decimal n ++ " characters.")) := by
  simp only [leastRule, h.least, hn, configured_ok, bind, Except.bind, pure, Except.pure,
    if_pos hlt]

theorem greatestRule_eq_none_iff (h : t.AreOf rules) :
    greatestRule rules answer = .ok none ↔ t.ShortEnough answer := by
  simp only [greatestRule, h.greatest, configured_ok, bind, Except.bind, pure, Except.pure,
    Terms.ShortEnough]
  cases t.greatest <;> simp

theorem greatestRule_of_long (h : t.AreOf rules) (hn : t.greatest = some n)
    (hlt : n < answer.length) :
    greatestRule rules answer =
      .ok (some ("Input must not exceed " ++ decimal n ++ " characters.")) := by
  simp only [greatestRule, h.greatest, hn, configured_ok, bind, Except.bind, pure, Except.pure,
    if_pos hlt]

theorem patternRule_eq_none_iff (h : t.AreOf rules) :
    patternRule rules answer = .ok none ↔ t.Matches answer := by
  simp only [patternRule, h.pattern, configured_ok, bind, Except.bind, pure, Except.pure,
    Terms.Matches]
  cases t.pattern with
  | none => simp
  | some p =>
    cases hread : Pattern.ofText? p with
    | none => simp [hread, throw, throwThe, MonadExceptOf.throw]
    | some pattern =>
      cases hmatches : pattern.matchesIn answer with
      | true => simp [hread, hmatches]
      | false =>
        -- whether its own message can be read or not, the rule says something
        cases configured (rules.text? "patternMessage") <;> simp [hread, hmatches]

theorem patternRule_of_unmatched (h : t.AreOf rules)
    (hown : rules.text? "patternMessage" = .ok own) (hp : t.pattern = some p)
    (hread : Pattern.ofText? p = some pattern) (hno : pattern.matchesIn answer = false) :
    patternRule rules answer =
      .ok (some (own.getD "Input does not match the required format.")) := by
  simp only [patternRule, h.pattern, hp, configured_ok, bind, Except.bind, pure, Except.pure, hread,
    hno, hown, Bool.false_eq_true, if_false]

theorem patternRule_of_unreadable (h : t.AreOf rules) (hp : t.pattern = some p)
    (hread : Pattern.ofText? p = none) (answer : String) :
    patternRule rules answer = .error .pattern := by
  simp only [patternRule, h.pattern, hp, configured_ok, bind, Except.bind, hread]
  rfl

/-! ## Verdicts -/

/-- **An answer breaks no rule exactly if it keeps each of them.** -/
theorem firstBroken?_eq_none_iff :
    firstBroken? config answer after = .ok none ↔
      ∀ rule ∈ after, rule config answer = .ok none := by
  induction after with
  | nil => simp [firstBroken?]
  | cons rule after ih =>
    rw [List.forall_mem_cons, ← ih, firstBroken?]
    split
    · next hrule => rw [and_iff_right hrule]
    · next hrule => exact ⟨fun h => absurd h hrule, fun h => absurd h.1 hrule⟩

/-- **What the first rule that is not kept says** is the verdict. -/
theorem firstBroken?_append_cons (hbefore : ∀ rule ∈ before, rule config answer = .ok none)
    (hrule : rule config answer ≠ .ok none) :
    firstBroken? config answer (before ++ rule :: after) = rule config answer := by
  induction before with
  | nil =>
    rw [List.nil_append, firstBroken?]
    split
    · next h => exact absurd h hrule
    · rfl
  | cons kept before ih =>
    obtain ⟨hkept, hbefore⟩ := List.forall_mem_cons.1 hbefore
    rw [List.cons_append, firstBroken?, hkept]
    exact ih hbefore

theorem violation?_of_kept (before : List (NodeConfig → String → Except Error (Option String)))
    (hrules : Question.rules = before ++ rule :: after)
    (hbefore : ∀ rule ∈ before, rule config answer = .ok none)
    (hrule : rule config answer ≠ .ok none) : violation? config answer = rule config answer := by
  rw [violation?, hrules, firstBroken?_append_cons hbefore hrule]

/-- **An answer that keeps all the terms breaks no rule**, and no other
answer does so. -/
theorem violation?_eq_none_iff (h : t.AreOf rules) :
    violation? rules answer = .ok none ↔ t.Accepts answer := by
  rw [violation?, firstBroken?_eq_none_iff]
  simp only [Question.rules, List.forall_mem_cons, requiredRule_eq_none_iff h,
    leastRule_eq_none_iff h, greatestRule_eq_none_iff h, patternRule_eq_none_iff h]
  exact ⟨fun ⟨hp, hl, hs, hm, _⟩ => ⟨hp, hl, hs, hm⟩,
    fun ⟨hp, hl, hs, hm⟩ => ⟨hp, hl, hs, hm, nofun⟩⟩

/-- The rules about blank and long answers are kept. -/
theorem measured_kept (h : t.AreOf rules) (hp : t.Present answer) (hl : t.LongEnough answer)
    (hs : t.ShortEnough answer) :
    ∀ rule ∈ [requiredRule, leastRule, greatestRule], rule rules answer = .ok none := by
  simp only [List.forall_mem_cons, requiredRule_eq_none_iff h, leastRule_eq_none_iff h,
    greatestRule_eq_none_iff h]
  exact ⟨hp, hl, hs, nofun⟩

/-- **The first of the terms that is broken is the verdict.** -/
theorem violation?_of_firstBroken (h : t.AreOf rules)
    (hown : rules.text? "patternMessage" = .ok own) (hb : t.FirstBroken own answer reason) :
    violation? rules answer = .ok (some reason) := by
  cases hb with
  | absent hp =>
    have hrule := requiredRule_of_absent h hp
    rw [violation?_of_kept [] rfl nofun (by rw [hrule]; nofun), hrule]
  | short hp hn hlt =>
    have hrule := leastRule_of_short h hn hlt
    rw [violation?_of_kept [requiredRule] rfl _ (by rw [hrule]; nofun), hrule]
    simpa using (requiredRule_eq_none_iff h).2 hp
  | long hp hl hn hlt =>
    have hrule := greatestRule_of_long h hn hlt
    rw [violation?_of_kept [requiredRule, leastRule] rfl _ (by rw [hrule]; nofun), hrule]
    simpa using And.intro ((requiredRule_eq_none_iff h).2 hp) ((leastRule_eq_none_iff h).2 hl)
  | unmatched hp hl hs hpattern hread hno =>
    have hrule := patternRule_of_unmatched h hown hpattern hread hno
    rw [violation?_of_kept _ rfl (measured_kept h hp hl hs) (by rw [hrule]; nofun), hrule]

/-- **An answer that cannot be judged has no verdict.** -/
theorem violation?_of_unreadable (h : t.AreOf rules) (hu : t.Unreadable answer) :
    violation? rules answer = .error .pattern := by
  obtain ⟨p, hpattern, hread⟩ := hu.pattern
  have hrule := patternRule_of_unreadable h hpattern hread answer
  rw [violation?_of_kept _ rfl (measured_kept h hu.present hu.longEnough hu.shortEnough)
    (by rw [hrule]; nofun), hrule]

theorem violation?_eq_some_iff (h : t.AreOf rules)
    (hown : rules.text? "patternMessage" = .ok own) :
    violation? rules answer = .ok (some reason) ↔ t.FirstBroken own answer reason := by
  refine ⟨fun hv => ?_, violation?_of_firstBroken h hown⟩
  obtain ha | ⟨first, hb⟩ | hu := t.cases own answer
  · cases hv.symm.trans ((violation?_eq_none_iff h).2 ha)
  · cases hv.symm.trans (violation?_of_firstBroken h hown hb)
    exact hb
  · cases hv.symm.trans (violation?_of_unreadable h hu)

theorem violation?_eq_error_iff (h : t.AreOf rules)
    (hown : rules.text? "patternMessage" = .ok own) :
    (∃ e, violation? rules answer = .error e) ↔ t.Unreadable answer := by
  refine ⟨fun ⟨e, hv⟩ => ?_, fun hu => ⟨_, violation?_of_unreadable h hu⟩⟩
  obtain ha | ⟨reason, hb⟩ | hu := t.cases own answer
  · cases hv.symm.trans ((violation?_eq_none_iff h).2 ha)
  · cases hv.symm.trans (violation?_of_firstBroken h hown hb)
  · exact hu

/-- **Rules that an answer does not break can be read.** -/
theorem exists_terms (h : violation? rules answer = .ok none) : ∃ t : Terms, t.AreOf rules := by
  have hkept := firstBroken?_eq_none_iff.1 h
  simp only [Question.rules, List.forall_mem_cons] at hkept
  obtain ⟨hrequired, hleast, hgreatest, hpattern, -⟩ := hkept
  obtain ⟨required?, hrequired, -⟩ := bind_eq_ok_iff.1 hrequired
  obtain ⟨least, hleast, -⟩ := bind_eq_ok_iff.1 hleast
  obtain ⟨greatest, hgreatest, -⟩ := bind_eq_ok_iff.1 hgreatest
  obtain ⟨pattern, hpattern, -⟩ := bind_eq_ok_iff.1 hpattern
  exact ⟨⟨required?.getD false, least, greatest, pattern⟩,
    ⟨required?, mapError_eq_ok_iff.1 hrequired, rfl⟩, mapError_eq_ok_iff.1 hleast,
    mapError_eq_ok_iff.1 hgreatest, mapError_eq_ok_iff.1 hpattern⟩

/-! ## Steps -/

/-- **What a question is configured with**: its text, the variable that
takes the answer, and the rules with their terms. -/
structure Reads (config : NodeConfig) (text key : String) (rules : NodeConfig) (t : Terms) :
    Prop where
  prompt : config.textOr "promptText" defaultPrompt = .ok text
  stored : config.textOr "stateKey" defaultKey = .ok key
  checked : config.section? "validationRules" = .ok rules
  terms : t.AreOf rules

/-- The result of an answer with a verdict. -/
def answered (prompt key answer : String) : Option String → Result
  | some reason => .refused prompt reason
  | none => taken prompt key answer

/-- **The verdict makes the result of an answer.** -/
theorem run_of_answer (h : Reads input.config text key rules t) (hw : input.answer = some value)
    (hnull : value ≠ .null) :
    run input = (violation? rules value.display).map
      (answered (Template.render text input.state) key value.display) := by
  simp only [run, h.prompt, h.stored, h.checked, configured_ok, bind, Except.bind, hw]
  cases value with
  | null => exact absurd rfl hnull
  | _ =>
    generalize violation? rules _ = verdict
    obtain _ | _ | reason := verdict <;> rfl

/-- **An answer that is taken keeps the terms of its question.** -/
theorem accepts_of_run (h : run input = .ok r) (hr : r.requiresInput = false) :
    ∃ text key rules t answer, Reads input.config text key rules t ∧ input.answer = some answer ∧
      t.Accepts answer.display ∧
      r = taken (Template.render text input.state) key answer.display := by
  obtain ⟨text, key, rules, answer, htext, hkey, hrules, hanswer, hkept, rfl⟩ :=
    eq_taken_of_run h hr
  obtain ⟨t, ht⟩ := exists_terms hkept
  exact ⟨text, key, rules, t, answer, ⟨htext, hkey, hrules, ht⟩, hanswer,
    (violation?_eq_none_iff ht).1 hkept, rfl⟩

end Question

end Step

end Flowchart
