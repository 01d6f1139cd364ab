import Flowchart.Proofs.Template.Groups

/-!
# References

A text that is one group and nothing else refers to a variable as a whole
(`bareReference?_eq_some_iff`). No other name has its group in such a
text, whatever characters it holds. So a reference is rendered as the
value of its own name, and without one it stays as it is.
-/

namespace Flowchart

namespace Template

/-- **A text can refer to the name**: it is not empty, and neither braces
nor white space stand in it. -/
structure Referable (name : String) : Prop where
  nonempty : name ≠ ""
  noBrace : NoBrace name.toList
  noBlank : ∀ c ∈ name.toList, Text.isBlank c = false

/-- The text that refers to a name. -/
def reference (name : String) : String :=
  String.ofList (placeholder name)

variable {name key text : String} {value : Json} {chars : List Char}
variable {vars : List (String × Json)} {state : StateMap}

@[simp] theorem toList_reference (name : String) : (reference name).toList = placeholder name :=
  String.toList_ofList

/-! ## Which texts are references -/

/-- The characters of a name that can be referred to. -/
theorem referable_iff :
    Referable name ↔ name.toList ≠ [] ∧
      ∀ c ∈ name.toList, c ≠ '\x7b' ∧ c ≠ '\x7d' ∧ Text.isBlank c = false := by
  constructor
  · rintro ⟨hne, ⟨hopen, hclose⟩, hblank⟩
    refine ⟨fun h => hne (String.toList_eq_nil_iff.1 h), fun c hc => ⟨?_, ?_, hblank c hc⟩⟩
    · rintro rfl
      exact hopen hc
    · rintro rfl
      exact hclose hc
  · rintro ⟨hne, h⟩
    exact ⟨fun heq => hne (heq ▸ rfl), ⟨fun hc => (h _ hc).1 rfl, fun hc => (h _ hc).2.1 rfl⟩,
      fun c hc => (h c hc).2.2⟩

/-- **A text is a reference exactly if it is the group of a name that can
be referred to.** -/
theorem bareReference?_eq_some_iff :
    bareReference? text = some name ↔ Referable name ∧ text = reference name := by
  rw [referable_iff]
  unfold bareReference?
  constructor
  · intro h
    split at h
    · next rest htext =>
      obtain ⟨⟨hlast, hne, hall⟩, hname⟩ := Option.ite_none_right_eq_some.1 h
      have hname : rest.dropLast = name.toList := by
        rw [← Option.some.inj hname, String.toList_ofList]
      have hrest : rest = name.toList ++ ['\x7d'] := by
        rw [← hname, List.dropLast_append_getLast? _ hlast]
      rw [hname] at hne hall
      refine ⟨⟨by simpa using hne, by simpa using hall⟩, String.toList_inj.1 ?_⟩
      rw [htext, hrest, toList_reference]
      rfl
    · cases h
  · rintro ⟨⟨hne, hall⟩, rfl⟩
    rw [toList_reference]
    simp only [placeholder, List.dropLast_concat, List.getLast?_concat, String.ofList_toList]
    exact if_pos ⟨trivial, by simpa using hne, by simpa using hall⟩

theorem bareReference?_reference (h : Referable name) :
    bareReference? (reference name) = some name :=
  bareReference?_eq_some_iff.2 ⟨h, rfl⟩

theorem referenced?_reference (h : Referable name) (state : StateMap) :
    referenced? (reference name) state = state.find? name := by
  rw [referenced?, bareReference?_reference h, Option.bind_some]

/-! ## Rendering references -/

/-- **In a reference no other name has its group**, whatever characters
the name holds. -/
theorem eq_of_infix_placeholder (hname : NoBrace name.toList)
    (h : placeholder key <:+: placeholder name) : key = name := by
  rcases List.infix_cons_iff.1 h with h | h
  · have hinner := (List.cons_prefix_cons.1 h).2
    rcases List.prefix_concat_iff.1 hinner with h | h
    · exact String.toList_inj.1 (List.append_cancel_right h)
    · exact absurd (h.subset (by simp)) hname.2
  · -- the opening brace is the only one
    exact absurd (h.subset List.mem_cons_self) (by simpa using hname.1)

/-- A text without an opening brace is rendered as it is. -/
theorem renderChars_of_not_mem (h : '\x7b' ∉ chars) (vars : List (String × Json)) :
    renderChars chars vars = chars := by
  induction vars with
  | nil => rfl
  | cons e vars ih =>
    have hfree : ¬ placeholder e.1 <:+: chars := fun hp => h (hp.subset List.mem_cons_self)
    rw [renderChars_cons, Text.replace_of_not_infix _ hfree, ih]

/-- A reference is passed over by the other names. -/
theorem renderChars_placeholder_cons {e : String × Json} (hname : NoBrace name.toList)
    (hne : e.1 ≠ name) (vars : List (String × Json)) :
    renderChars (placeholder name) (e :: vars) = renderChars (placeholder name) vars := by
  have hfree : ¬ placeholder e.1 <:+: placeholder name :=
    fun hp => hne (eq_of_infix_placeholder hname hp)
  rw [renderChars_cons, Text.replace_of_not_infix _ hfree]

/-- **A reference to nothing stays as it is.** -/
theorem renderChars_placeholder_of_none (hname : NoBrace name.toList)
    (h : SortedMap.findIn? name vars = none) :
    renderChars (placeholder name) vars = placeholder name := by
  induction vars with
  | nil => rfl
  | cons e vars ih =>
    rw [SortedMap.findIn?] at h
    split at h
    · cases h
    · next hne => rw [renderChars_placeholder_cons hname hne, ih h]

/-- **A reference becomes the display text of the value**, if no opening
brace stands in that. -/
theorem renderChars_placeholder_of_some (hname : NoBrace name.toList)
    (h : SortedMap.findIn? name vars = some value) (hvalue : '\x7b' ∉ value.display.toList) :
    renderChars (placeholder name) vars = value.display.toList := by
  induction vars with
  | nil => cases h
  | cons e vars ih =>
    rw [SortedMap.findIn?] at h
    split at h
    · next heq =>
      obtain rfl := Option.some.inj h
      have hgroup : Text.replace (placeholder name) e.2.display.toList (placeholder name) =
          e.2.display.toList := Text.replace_self (List.cons_ne_nil _ _) _
      rw [renderChars_cons, heq, hgroup, renderChars_of_not_mem hvalue]
    · next hne => rw [renderChars_placeholder_cons hname hne, ih h]

theorem render_reference_of_none (hname : Referable name) (h : state.find? name = none) :
    render (reference name) state = reference name := by
  rw [render, toList_reference, renderChars_placeholder_of_none hname.noBrace h]
  rfl

theorem render_reference_of_some (hname : Referable name) (h : state.find? name = some value)
    (hvalue : '\x7b' ∉ value.display.toList) : render (reference name) state = value.display := by
  rw [render, toList_reference, renderChars_placeholder_of_some hname.noBrace h hvalue,
    String.ofList_toList]

end Template

end Flowchart
