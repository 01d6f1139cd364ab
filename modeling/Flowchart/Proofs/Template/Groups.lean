import Flowchart.Proofs.SortedMap
import Flowchart.Proofs.Text.Gap
import Flowchart.Proofs.Text.Replace
import Flowchart.Template

/-!
# Groups of a template

A template is a sequence of texts and groups (`Part`), and `Part.fill`
puts values in for all groups at once. Where no brace stands in a name or
a value, the names may be applied one after another in any order: a group
is found only under its own name (`eq_of_placeholder_starts`), and what
was put in is never searched again (`renderChars_chars`).
-/

namespace Flowchart

namespace Template

/-- **No brace stands in the text.** -/
def NoBrace (text : List Char) : Prop :=
  '\x7b' ∉ text ∧ '\x7d' ∉ text

instance (text : List Char) : Decidable (NoBrace text) :=
  inferInstanceAs (Decidable (_ ∧ _))

/-- A part of a template. -/
inductive Part where
  /-- A text that stands for itself. -/
  | text (s : String)
  /-- A group that stands for the variable of this name. -/
  | group (name : String)
deriving DecidableEq

namespace Part

/-- The part as it is written. -/
def chars : Part → List Char
  | text s => s.toList
  | group name => placeholder name

/-- No brace stands in the part, but for the two of a group. -/
def Plain : Part → Prop
  | text s => NoBrace s.toList
  | group name => NoBrace name.toList

instance (p : Part) : Decidable p.Plain :=
  match p with
  | text s => inferInstanceAs (Decidable (NoBrace s.toList))
  | group name => inferInstanceAs (Decidable (NoBrace name.toList))

/-- The part with a value put in: a group becomes the display text of the
value of its name, and stays as it is if there is none. -/
def fill (look : String → Option Json) : Part → Part
  | text s => .text s
  | group name => ((look name).map fun value => Part.text value.display).getD (.group name)

end Part

/-- The characters of a template. -/
def chars (parts : List Part) : List Char :=
  parts.flatMap Part.chars

/-- The template that is made up of parts. -/
def written (parts : List Part) : String :=
  String.ofList (chars parts)

/-- **Variables without braces**: none stands in a name, and none in the
display text of a value. -/
def Plain (vars : List (String × Json)) : Prop :=
  ∀ e ∈ vars, NoBrace e.1.toList ∧ NoBrace e.2.display.toList

instance (vars : List (String × Json)) : Decidable (Plain vars) :=
  inferInstanceAs (Decidable (∀ _ ∈ _, _))

variable {vars vars' : List (String × Json)} {parts : List Part} {p : Part} {name key : String}
variable {value : Json} {look look' : String → Option Json} {text rest : List Char}

/-! ## Parts -/

@[simp] theorem chars_cons (p : Part) (parts : List Part) :
    chars (p :: parts) = p.chars ++ chars parts := rfl

@[simp] theorem toList_written (parts : List Part) : (written parts).toList = chars parts :=
  String.toList_ofList

theorem Part.fill_group_of_none (h : look name = none) :
    (Part.group name).fill look = .group name := by
  rw [fill, h]
  rfl

theorem Part.fill_group_of_some (h : look name = some value) :
    (Part.group name).fill look = .text value.display := by
  rw [fill, h]
  rfl

/-- Values without braces leave plain parts. -/
theorem Part.Plain.fill (h : p.Plain)
    (hlook : ∀ name value, look name = some value → NoBrace value.display.toList) :
    (p.fill look).Plain := by
  cases p with
  | text s => exact h
  | group name =>
    cases hname : look name with
    | none => rwa [Part.fill_group_of_none hname]
    | some value =>
      rw [Part.fill_group_of_some hname]
      exact hlook name value hname

/-- Only the names of groups are looked up. -/
theorem map_fill_congr (h : ∀ name, .group name ∈ parts → look name = look' name) :
    parts.map (·.fill look) = parts.map (·.fill look') := by
  refine List.map_congr_left fun p hp => ?_
  cases p with
  | text s => rfl
  | group name => rw [Part.fill, Part.fill, h name hp]

/-- **Filled once is filled for good**: a group that is left has no
value. -/
theorem Part.fill_fill (p : Part) (look : String → Option Json) :
    (p.fill look).fill look = p.fill look := by
  cases p with
  | text s => rfl
  | group name =>
    cases hname : look name with
    | none => rw [fill_group_of_none hname, fill_group_of_none hname]
    | some value =>
      rw [fill_group_of_some hname]
      rfl

/-- The first name is applied first. -/
theorem renderChars_cons (cs : List Char) (e : String × Json) (vars : List (String × Json)) :
    renderChars cs (e :: vars) =
      renderChars (Text.replace (placeholder e.1) e.2.display.toList cs) vars := rfl

/-! ## One name -/

/-- **A group is found under its own name only.** -/
theorem eq_of_placeholder_starts (hkey : NoBrace key.toList) (hname : NoBrace name.toList)
    (h : placeholder key <+: placeholder name ++ rest) : name = key := by
  rw [placeholder, placeholder, List.cons_append, List.append_assoc, List.singleton_append] at h
  have hinner := (List.cons_prefix_cons.1 h).2
  -- each of the two names is what stands in front of the closing brace
  have hfront : key.toList <+: name.toList :=
    Text.prefix_of_not_mem hkey.2 ((List.prefix_append _ _).trans hinner)
  obtain ⟨tail, htail⟩ := hfront
  rw [← htail, List.append_assoc, List.prefix_append_right_inj] at hinner
  cases tail with
  | nil => exact String.toList_inj.1 (by rw [← htail, List.append_nil])
  | cons c tail =>
    have hc : '\x7d' = c := (List.cons_prefix_cons.1 hinner).1
    exact absurd (htail ▸ hc ▸ by simp) hname.2

/-- No group begins within a text without braces. -/
theorem clear_of_noBrace (htext : NoBrace text) (key : String) (rest : List Char) :
    Text.Clear (placeholder key) text rest := by
  intro y hy hne hp
  obtain ⟨c, y, rfl⟩ := List.exists_cons_of_ne_nil hne
  obtain rfl := (List.cons_prefix_cons.1 hp).1
  exact htext.1 (hy.subset List.mem_cons_self)

/-- The group of a name does not begin within that of another. -/
theorem clear_of_ne (hkey : NoBrace key.toList) (hname : NoBrace name.toList) (hne : name ≠ key)
    (rest : List Char) : Text.Clear (placeholder key) (placeholder name) rest := by
  intro y hy hy' hp
  obtain rfl | hy := List.suffix_cons_iff.1 hy
  · exact hne (eq_of_placeholder_starts hkey hname hp)
  · -- behind the opening brace there is no other
    obtain ⟨c, y, rfl⟩ := List.exists_cons_of_ne_nil hy'
    obtain rfl := (List.cons_prefix_cons.1 hp).1
    have hmem := hy.subset List.mem_cons_self
    exact hname.1 (by simpa using hmem)

/-- The value of one name. -/
def only (e : String × Json) (name : String) : Option Json :=
  if e.1 = name then some e.2 else none

/-- **A name fills its groups**, and leaves the other parts as they are. -/
theorem replace_chars {e : String × Json} (he : NoBrace e.1.toList)
    (hparts : ∀ p ∈ parts, p.Plain) :
    Text.replace (placeholder e.1) e.2.display.toList (chars parts) =
      chars (parts.map (·.fill (only e))) := by
  induction parts with
  | nil => rfl
  | cons p parts ih =>
    obtain ⟨hp, hparts⟩ := List.forall_mem_cons.1 hparts
    rw [chars_cons, List.map_cons, chars_cons, ← ih hparts]
    cases p with
    | text s => exact Text.replace_append _ (clear_of_noBrace hp _ _)
    | group name =>
      by_cases hname : e.1 = name
      · rw [Part.fill_group_of_some (if_pos hname), ← hname]
        exact Text.replace_needle_append (List.cons_ne_nil _ _) _ _
      · rw [Part.fill_group_of_none (if_neg hname)]
        exact Text.replace_append _ (clear_of_ne he hp (Ne.symm hname) _)

/-! ## All names -/

/-- A part is filled by the first entry of its name. -/
theorem Part.fill_only_fill (p : Part) (e : String × Json) (vars : List (String × Json)) :
    (p.fill (only e)).fill (SortedMap.findIn? · vars) =
      p.fill (SortedMap.findIn? · (e :: vars)) := by
  cases p with
  | text s => rfl
  | group name =>
    by_cases hname : e.1 = name
    · have honly : only e name = some e.2 := if_pos hname
      have hfound : SortedMap.findIn? name (e :: vars) = some e.2 := if_pos hname
      rw [fill_group_of_some honly, fill_group_of_some hfound]
      rfl
    · have honly : only e name = none := if_neg hname
      have hfound : SortedMap.findIn? name (e :: vars) = SortedMap.findIn? name vars :=
        if_neg hname
      rw [fill_group_of_none honly, fill, fill, hfound]

/-- **Names that are applied one after another fill their groups at
once.** -/
theorem renderChars_chars (hvars : Plain vars) (hparts : ∀ p ∈ parts, p.Plain) :
    renderChars (chars parts) vars = chars (parts.map (·.fill (SortedMap.findIn? · vars))) := by
  induction vars generalizing parts with
  | nil =>
    have hid (p : Part) : p.fill (SortedMap.findIn? · []) = p := by cases p <;> rfl
    simp only [hid, List.map_id']
    rfl
  | cons e vars ih =>
    obtain ⟨⟨hname, hvalue⟩, hvars⟩ := List.forall_mem_cons.1 hvars
    have hplain : ∀ p ∈ parts.map (·.fill (only e)), p.Plain := by
      intro q hq
      obtain ⟨p, hp, rfl⟩ := List.mem_map.1 hq
      refine (hparts p hp).fill fun name value hlook => ?_
      have hsome : e.2 = value := Option.some.inj (Option.ite_none_right_eq_some.1 hlook).2
      exact hsome ▸ hvalue
    rw [renderChars_cons, replace_chars hname hparts, ih hvars hplain, List.map_map]
    exact congrArg chars (List.map_congr_left fun p _ => p.fill_only_fill e vars)

/-- A template is rendered by the values of its names. -/
theorem render_written {vars : StateMap} (hvars : Plain vars.entries)
    (hparts : ∀ p ∈ parts, p.Plain) :
    render (written parts) vars = written (parts.map (·.fill vars.find?)) := by
  rw [render, toList_written, renderChars_chars hvars hparts]
  rfl

/-- Filling leaves plain parts. -/
theorem plain_of_mem_map_fill {vars : StateMap} (hvars : Plain vars.entries)
    (hparts : ∀ p ∈ parts, p.Plain) : ∀ p ∈ parts.map (·.fill vars.find?), p.Plain := by
  intro q hq
  obtain ⟨p, hp, rfl⟩ := List.mem_map.1 hq
  exact (hparts p hp).fill fun name value hfound =>
    (hvars _ (SortedMap.mem_of_find?_eq_some hfound)).2

/-- **Rendering is simultaneous substitution** where no brace stands in a
name, in the display text of a value or in a text of the template: every
group of a variable becomes the display text of its value, and all else
stays as it is. So the names may be applied in any order, and as far as
they have been applied, their groups and nothing else have been filled:
what was put in is never searched again. Variables without a group have
no influence, and rendering once more changes nothing. -/
theorem rendering_fills_at_once {vars : StateMap} {parts : List Part} (hvars : Plain vars.entries)
    (hparts : ∀ p ∈ parts, p.Plain) :
    render (written parts) vars = written (parts.map (·.fill vars.find?)) ∧
    (∀ es : List (String × Json), es.Perm vars.entries →
      String.ofList (renderChars (chars parts) es) = render (written parts) vars) ∧
    (∀ before after : List (String × Json), (before ++ after).Perm vars.entries →
      renderChars (chars parts) before =
        chars (parts.map (·.fill (SortedMap.findIn? · before)))) ∧
    (∀ vars' : StateMap, Plain vars'.entries →
      (∀ name, .group name ∈ parts → vars'.find? name = vars.find? name) →
      render (written parts) vars' = render (written parts) vars) ∧
    render (render (written parts) vars) vars = render (written parts) vars := by
  have hrender := render_written hvars hparts
  refine ⟨hrender, fun es hes => ?_, fun before after hperm => ?_, fun vars' hvars' hsame => ?_, ?_⟩
  · have hplain : Plain es := fun e he => hvars e (hes.subset he)
    have hlook : (SortedMap.findIn? · es) = vars.find? := by
      funext name
      exact (SortedMap.findIn?_of_perm vars.nodup_keys hes.symm name).symm
    rw [renderChars_chars hplain hparts, hlook, hrender]
    rfl
  · have hplain : Plain before :=
      fun e he => hvars e (hperm.subset (List.mem_append_left after he))
    exact renderChars_chars hplain hparts
  · rw [render_written hvars' hparts, hrender, map_fill_congr hsame]
  · have hagain : (parts.map (·.fill vars.find?)).map (·.fill vars.find?) =
        parts.map (·.fill vars.find?) := by
      rw [List.map_map]
      exact List.map_congr_left fun p _ => p.fill_fill vars.find?
    rw [hrender, render_written hvars (plain_of_mem_map_fill hvars hparts), hagain]

/-- Two groups side by side, one of them twice, and one that is no
variable; the value of one variable is the name of another. -/
def greeting : List Part :=
  [.text "Hi ", .group "first", .group "last", .text ": ", .group "first", .group "title",
    .text "!"]

/-- The variables of the greeting, and one more. -/
def greeted : StateMap :=
  .ofEntries [("first", .string "last"), ("last", .ofInt 7), ("none", .null),
    ("words", .array [.bool true, .string "a"])]

/-- **The greeting is filled at once**, also if the names are applied in
the opposite order. -/
theorem greeting_filled_at_once :
    Plain greeted.entries ∧ (∀ p ∈ greeting, p.Plain) ∧
    written greeting = "Hi \x7bfirst\x7d\x7blast\x7d: \x7bfirst\x7d\x7btitle\x7d!" ∧
    render (written greeting) greeted = "Hi last7: last\x7btitle\x7d!" ∧
    renderChars (chars greeting) greeted.entries.reverse =
      "Hi last7: last\x7btitle\x7d!".toList := by
  have hvars : Plain greeted.entries := by decide +kernel
  have hparts : ∀ p ∈ greeting, p.Plain := by decide +kernel
  obtain ⟨hrender, horder, -⟩ := rendering_fills_at_once hvars hparts
  have hfilled : render (written greeting) greeted = "Hi last7: last\x7btitle\x7d!" := by
    rw [hrender]
    decide +kernel
  have hreverse := horder greeted.entries.reverse (List.reverse_perm _)
  refine ⟨hvars, hparts, by decide +kernel, hfilled, ?_⟩
  rw [← hfilled, ← hreverse, String.toList_ofList]

end Template

end Flowchart
