import Flowchart.Proofs.Json.Number

/-!
# Written documents are read back

A document is written in one line or over several; the two differ in
their white space only (`Layout`). In every layout a document is read back
in one piece, up to where its text stops (`Layout.read_chars`): what is
read is the document with its numbers as they are read, `Raw.reread`.
Nothing of it is rejected by the grammar, so what may go wrong afterwards
is a number out of range or nesting that is too deep.
-/

namespace Flowchart

namespace Json

/-! ## Strings -/

/-- An escape of one letter is one character. -/
theorem stringPieces_escape {e c : Char} (he : e ≠ 'u') (hc : escape? e = some c)
    (text : List Char) :
    stringPieces ('\\' :: e :: text) =
      (stringPieces text).map fun q => (.char c :: q.1, q.2) := by
  rw [stringPieces.eq_def]
  split
  · next h => cases h
  · next h => simp at h
  · next h => simp_all
  · next h =>
    simp only [List.cons.injEq, true_and] at h
    obtain ⟨rfl, rfl⟩ := h
    rw [hc]
    cases stringPieces text <;> rfl
  · next hno h =>
    obtain ⟨hc, htext⟩ := List.cons.inj h
    exact (hno e text hc.symm htext.symm).elim

/-- An escape by a number is one unit. -/
theorem stringPieces_unit {a b c d : Char} {n : Nat} (h : Text.hexNumber? [a, b, c, d] = some n)
    (text : List Char) :
    stringPieces ('\\' :: 'u' :: a :: b :: c :: d :: text) =
      (stringPieces text).map fun q => (.unit n :: q.1, q.2) := by
  rw [stringPieces, h]
  cases stringPieces text <;> rfl

/-- Any other character from the space on stands for itself. -/
theorem stringPieces_plain {c : Char} (hquote : c ≠ '"') (hback : c ≠ '\\')
    (hspace : ¬ c.toNat < 32) (text : List Char) :
    stringPieces (c :: text) = (stringPieces text).map fun q => (.char c :: q.1, q.2) := by
  rw [stringPieces.eq_def]
  split
  · next h => cases h
  · next h => simp_all
  · next h => simp_all
  · next h => simp_all
  · next h =>
    obtain ⟨rfl, rfl⟩ := List.cons.inj h
    simp [hspace, hback]

/-- A control character is written by its number. -/
theorem hexNumber?_control {n : Nat} (h : n < 32) :
    Text.hexNumber? ['0', '0', Text.hexDigit (Text.lastHex (n / 16)),
      Text.hexDigit (Text.lastHex n)] = some n := by
  have all : ∀ k < 32, Text.hexNumber? ['0', '0', Text.hexDigit (Text.lastHex (k / 16)),
      Text.hexDigit (Text.lastHex k)] = some k := by decide
  exact all n h

/-- **An escaped character is read as one piece, which stands for it.** -/
theorem exists_piece (c : Char) :
    ∃ p : Piece, (∀ ps, joinPieces (p :: ps) = (joinPieces ps).map (c :: ·)) ∧
      ∀ text, stringPieces (escaped c ++ text) =
        (stringPieces text).map fun q => (p :: q.1, q.2) := by
  have letter : ∀ e, e ≠ 'u' → escape? e = some c → escaped c = ['\\', e] →
      ∃ p : Piece, (∀ ps, joinPieces (p :: ps) = (joinPieces ps).map (c :: ·)) ∧
        ∀ text, stringPieces (escaped c ++ text) =
          (stringPieces text).map fun q => (p :: q.1, q.2) := by
    intro e he hc hesc
    exact ⟨.char c, fun _ => rfl, fun text => hesc ▸ stringPieces_escape he hc text⟩
  -- the characters that have an escape of one letter
  by_cases hquote : c = '"'
  · exact letter '"' (by decide) (by rw [hquote]; rfl) (by rw [hquote]; rfl)
  by_cases hback : c = '\\'
  · exact letter '\\' (by decide) (by rw [hback]; rfl) (by rw [hback]; rfl)
  by_cases hline : c = '\n'
  · exact letter 'n' (by decide) (by rw [hline]; rfl) (by rw [hline]; rfl)
  by_cases hreturn : c = '\r'
  · exact letter 'r' (by decide) (by rw [hreturn]; rfl) (by rw [hreturn]; rfl)
  by_cases htab : c = '\t'
  · exact letter 't' (by decide) (by rw [htab]; rfl) (by rw [htab]; rfl)
  by_cases hbell : c = '\x08'
  · exact letter 'b' (by decide) (by rw [hbell]; rfl) (by rw [hbell]; rfl)
  by_cases hfeed : c = '\x0c'
  · exact letter 'f' (by decide) (by rw [hfeed]; rfl) (by rw [hfeed]; rfl)
  unfold escaped
  simp only [hquote, hback, hline, hreturn, htab, hbell, hfeed, if_false]
  by_cases hspace : c.toNat < 32
  -- a control character is a unit by itself, far below the surrogates
  · refine ⟨.unit c.toNat, fun ps => ?_, fun text => ?_⟩
    · have hlow : ¬ (0xD800 ≤ c.toNat ∧ c.toNat < 0xDC00) := by omega
      have hhigh : ¬ (0xDC00 ≤ c.toNat ∧ c.toNat < 0xE000) := by omega
      conv => lhs; unfold joinPieces
      rw [if_neg hlow, if_neg hhigh, Char.ofNat_toNat]
    · rw [if_pos hspace]
      exact stringPieces_unit (hexNumber?_control hspace) text
  · exact ⟨.char c, fun _ => rfl, fun text => by
      rw [if_neg hspace]
      exact stringPieces_plain hquote hback hspace text⟩

/-- **A quoted text is read back.** -/
theorem readString_escaped (cs rest : List Char) :
    readString (cs.flatMap escaped ++ '"' :: rest) = some (some (String.ofList cs), rest) := by
  suffices h : ∃ ps, stringPieces (cs.flatMap escaped ++ '"' :: rest) = some (ps, rest) ∧
      joinPieces ps = some cs by
    obtain ⟨ps, hps, hjoin⟩ := h
    simp only [readString, hps, Option.map_some, hjoin]
  induction cs with
  | nil => exact ⟨[], by simp [stringPieces], rfl⟩
  | cons c cs ih =>
    obtain ⟨ps, hps, hjoin⟩ := ih
    obtain ⟨p, hp, hread⟩ := exists_piece c
    refine ⟨p :: ps, ?_, by rw [hp, hjoin, Option.map_some]⟩
    rw [List.flatMap_cons, List.append_assoc, hread, hps, Option.map_some]

theorem quotedChars_append (s : String) (rest : List Char) :
    quotedChars s ++ rest = '"' :: (s.toList.flatMap escaped ++ '"' :: rest) := by
  rw [quotedChars, List.cons_append, List.append_assoc, List.singleton_append]

/-! ## What is read of a document -/

mutual

/-- The document as it is read back: its numbers as they are read. -/
def Raw.reread : Json → Raw
  | .null => .null
  | .bool b => .bool b
  | .number n => .number n.reread?
  | .string s => .string (some s)
  | .array xs => .array (rereadItems xs)
  | .object es => .object (rereadEntries es)

/-- A sequence as it is read back. -/
def Raw.rereadItems : List Json → List Raw
  | [] => []
  | x :: xs => reread x :: rereadItems xs

/-- Entries as they are read back. -/
def Raw.rereadEntries : List (String × Json) → List (Option String × Raw)
  | [] => []
  | (k, x) :: es => (some k, reread x) :: rereadEntries es

end

/-! ## Values -/

/-- The character begins a value: it is no white space and closes
nothing. -/
def Begins (c : Char) : Prop :=
  c ≠ ' ' ∧ c ≠ '\n' ∧ c ≠ '\t' ∧ c ≠ '\r' ∧ c ≠ ']'

instance (c : Char) : Decidable (Begins c) :=
  inferInstanceAs (Decidable (_ ∧ _))

theorem skipSpace_of_begins {c : Char} (h : Begins c) (text : List Char) :
    skipSpace (c :: text) = c :: text := by
  simp [skipSpace, h.1, h.2.1, h.2.2.1, h.2.2.2.1]

theorem begins_of_isDigit {c : Char} (h : c = '-' ∨ Decimal.isDigit c = true) : Begins c := by
  refine ⟨?_, ?_, ?_, ?_, ?_⟩ <;> rintro rfl <;> exact absurd h (by decide)

variable {fuel : Nat} {rest : List Char}

/-- **A written number is read in its place.** -/
theorem readValue_number (n : Number) (h : Decimal.Stops rest) :
    readValue (fuel + 1) (n.chars ++ rest) = some (.number n.reread?, rest) := by
  obtain ⟨c, cs, hcs, hc⟩ := n.exists_head
  obtain ⟨m, hread, hm⟩ := n.readNumeral_chars h
  have other : ∀ d ∈ ['\x7b', '[', '"', 'n', 't', 'f'], c ≠ d := by
    rintro d hd rfl
    simp only [List.mem_cons, List.not_mem_nil, or_false] at hd
    rcases hd with rfl | rfl | rfl | rfl | rfl | rfl <;> exact absurd hc (by decide)
  rw [hcs, List.cons_append] at hread ⊢
  rw [readValue, skipSpace_of_begins (begins_of_isDigit hc)]
  split
  case h_7 => simp only [hread, Option.map_some, hm]
  all_goals
    next heq => exact absurd (List.cons.inj heq).1 (other _ (by simp))

theorem readValue_string (s : String) :
    readValue (fuel + 1) (quotedChars s ++ rest) = some (.string (some s), rest) := by
  rw [quotedChars_append, readValue, skipSpace_of_begins (by decide)]
  simp only [readString_escaped, Option.map_some, String.ofList_toList]

/-! ## Layouts -/

/-- The character is white space. -/
def IsSpace (c : Char) : Prop :=
  c = ' ' ∨ c = '\n' ∨ c = '\t' ∨ c = '\r'

theorem skipSpace_append {cs : List Char} (h : ∀ c ∈ cs, IsSpace c) (text : List Char) :
    skipSpace (cs ++ text) = skipSpace text := by
  induction cs with
  | nil => rfl
  | cons c cs ih =>
    obtain ⟨hc, hcs⟩ := List.forall_mem_cons.1 h
    rw [List.cons_append, skipSpace]
    exact (if_pos hc).trans (ih hcs)

/-- **White space between the parts of a document.** -/
structure Layout where
  /-- What stands in front of an item, an entry or a closing bracket at a level. -/
  gap : Nat → List Char
  /-- What stands behind a colon. -/
  pad : List Char
  /-- A gap is white space. -/
  isSpace_gap : ∀ level, ∀ c ∈ gap level, IsSpace c
  /-- So is what stands behind a colon. -/
  isSpace_pad : ∀ c ∈ pad, IsSpace c

namespace Layout

variable (l : Layout)

mutual

/-- The document in a layout. -/
def chars (level : Nat) : Json → List Char
  | .null => ['n', 'u', 'l', 'l']
  | .bool true => ['t', 'r', 'u', 'e']
  | .bool false => ['f', 'a', 'l', 's', 'e']
  | .number n => n.chars
  | .string s => quotedChars s
  | .array [] => ['[', ']']
  | .array (x :: xs) => '[' :: (l.gap (level + 1) ++ (chars (level + 1) x ++ items level xs))
  | .object [] => ['\x7b', '\x7d']
  | .object ((k, x) :: es) =>
    '\x7b' :: (l.gap (level + 1) ++ (quotedChars k ++
      ':' :: (l.pad ++ (chars (level + 1) x ++ entries level es))))

/-- The items after the first one, with the closing bracket. -/
def items (level : Nat) : List Json → List Char
  | [] => l.gap level ++ [']']
  | x :: xs => ',' :: (l.gap (level + 1) ++ (chars (level + 1) x ++ items level xs))

/-- The entries after the first one, with the closing brace. -/
def entries (level : Nat) : List (String × Json) → List Char
  | [] => l.gap level ++ ['\x7d']
  | (k, x) :: es =>
    ',' :: (l.gap (level + 1) ++ (quotedChars k ++
      ':' :: (l.pad ++ (chars (level + 1) x ++ entries level es))))

end

/-- The layout in one line without spaces. -/
def compact : Layout where
  gap _ := []
  pad := []
  isSpace_gap _ _ hc := absurd hc List.not_mem_nil
  isSpace_pad _ hc := absurd hc List.not_mem_nil

/-- The layout over several lines. -/
def pretty : Layout where
  gap := newLine
  pad := [' ']
  isSpace_gap level c hc := by
    rcases List.mem_cons.1 hc with rfl | hc
    · exact .inr (.inl rfl)
    · exact .inl (List.eq_of_mem_replicate hc)
  isSpace_pad _ hc := .inl (List.mem_singleton.1 hc)

/-! ## Reading a layout -/

variable {l : Layout} {level : Nat}

theorem skipSpace_gap (level : Nat) (text : List Char) :
    skipSpace (l.gap level ++ text) = skipSpace text :=
  skipSpace_append (l.isSpace_gap level) text

/-- A document begins with a character that begins a value. -/
theorem exists_begins (level : Nat) (j : Json) :
    ∃ c cs, l.chars level j = c :: cs ∧ Begins c := by
  cases j with
  | null => exact ⟨'n', _, rfl, by decide⟩
  | bool b => cases b <;> exact ⟨_, _, rfl, by decide⟩
  | number n =>
    obtain ⟨c, cs, hcs, hc⟩ := n.exists_head
    exact ⟨c, cs, by rw [chars, hcs], begins_of_isDigit hc⟩
  | string s => exact ⟨'"', _, by rw [chars, quotedChars], by decide⟩
  | array xs => cases xs <;> exact ⟨'[', _, by rw [chars], by decide⟩
  | object es =>
    rcases es with _ | ⟨⟨k, x⟩, es⟩ <;> exact ⟨'\x7b', _, by rw [chars], by decide⟩

theorem length_chars_pos (level : Nat) (j : Json) : 0 < (l.chars level j).length := by
  obtain ⟨c, cs, hcs, -⟩ := exists_begins (l := l) level j
  rw [hcs]
  exact Nat.succ_pos _

/-- A number stops in front of a gap and a bracket. -/
theorem stops_gap {c : Char} (hc : c = ']' ∨ c = '\x7d') (level : Nat) (rest : List Char) :
    Decimal.Stops (l.gap level ++ c :: rest) := by
  intro d hd
  cases hgap : l.gap level with
  | nil =>
    rw [hgap] at hd
    obtain rfl := Option.some.inj hd
    rcases hc with rfl | rfl <;> decide
  | cons e es =>
    rw [hgap] at hd
    obtain rfl := Option.some.inj hd
    have hspace := l.isSpace_gap level e (hgap ▸ List.mem_cons_self)
    rcases hspace with rfl | rfl | rfl | rfl <;> decide

/-- A value is read from behind white space. -/
theorem readValue_congr {text text' : List Char} (h : skipSpace text = skipSpace text') :
    readValue fuel text = readValue fuel text' := by
  cases fuel with
  | zero => rfl
  | succ fuel => rw [readValue, readValue, h]

theorem readItems_gap (level : Nat) (text : List Char) :
    readItems fuel (l.gap level ++ text) = readItems fuel text := by
  cases fuel with
  | zero => rfl
  | succ fuel => rw [readItems, readItems, readValue_congr (skipSpace_gap level text)]

theorem readEntries_gap (level : Nat) (text : List Char) :
    readEntries fuel (l.gap level ++ text) = readEntries fuel text := by
  cases fuel with
  | zero => rfl
  | succ fuel => rw [readEntries, readEntries, skipSpace_gap]

/-- The text goes on behind a value: with a comma, or with a bracket that
closes. -/
theorem stops_items (level : Nat) (xs : List Json) (rest : List Char) :
    Decimal.Stops (l.items level xs ++ rest) := by
  cases xs with
  | nil =>
    rw [items, List.append_assoc]
    exact stops_gap (by decide) level rest
  | cons x xs =>
    rw [items]
    intro c hc
    obtain rfl := Option.some.inj hc
    decide

theorem stops_entries (level : Nat) (es : List (String × Json)) (rest : List Char) :
    Decimal.Stops (l.entries level es ++ rest) := by
  cases es with
  | nil =>
    rw [entries, List.append_assoc]
    exact stops_gap (by decide) level rest
  | cons e es =>
    rw [entries]
    intro c hc
    obtain rfl := Option.some.inj hc
    decide

/-- A sequence is read once its items are. -/
theorem readValue_array {x : Json} {text : List Char} {raws : List Raw}
    (h : readItems fuel (l.chars (level + 1) x ++ text) = some (raws, rest)) :
    readValue (fuel + 1) ('[' :: (l.gap (level + 1) ++ (l.chars (level + 1) x ++ text))) =
      some (.array raws, rest) := by
  obtain ⟨c, cs, hcs, hc⟩ := exists_begins (l := l) (level + 1) x
  rw [hcs, List.cons_append] at h ⊢
  rw [readValue, skipSpace_of_begins (by decide)]
  simp only [skipSpace_gap, skipSpace_of_begins hc]
  split
  · next heq => exact absurd (List.cons.inj heq).1 hc.2.2.2.2
  · rw [h, Option.map_some]

/-- An object is read once its entries are. -/
theorem readValue_object {text : List Char} {raws : List (Option String × Raw)}
    (h : readEntries fuel ('"' :: text) = some (raws, rest)) :
    readValue (fuel + 1) ('\x7b' :: (l.gap level ++ '"' :: text)) = some (.object raws, rest) := by
  rw [readValue, skipSpace_of_begins (by decide)]
  simp only [skipSpace_gap, skipSpace_of_begins (show Begins '"' by decide)]
  split
  · next heq => exact absurd (List.cons.inj heq).1 (by decide)
  · rw [h, Option.map_some]

/-- **Whatever is written is read in its place**, in every layout: values,
the items of a sequence behind its bracket and the entries of an object
behind its brace. The induction is on the fuel, of which every call passes
on one less. -/
theorem read_chars (fuel : Nat) :
    (∀ (level : Nat) (j : Json) (rest : List Char), (l.chars level j).length ≤ fuel →
      Decimal.Stops rest → readValue fuel (l.chars level j ++ rest) = some (Raw.reread j, rest)) ∧
    (∀ (level : Nat) (x : Json) (xs : List Json) (rest : List Char),
      (l.chars (level + 1) x ++ l.items level xs).length ≤ fuel →
      readItems fuel (l.chars (level + 1) x ++ (l.items level xs ++ rest)) =
        some (Raw.rereadItems (x :: xs), rest)) ∧
    (∀ (level : Nat) (k : String) (x : Json) (es : List (String × Json)) (rest : List Char),
      (l.chars (level + 1) x ++ l.entries level es).length ≤ fuel →
      readEntries fuel (quotedChars k ++
        ':' :: (l.pad ++ (l.chars (level + 1) x ++ (l.entries level es ++ rest)))) =
          some (Raw.rereadEntries ((k, x) :: es), rest)) := by
  induction fuel with
  | zero =>
    refine ⟨fun level j rest hf => ?_, fun level x xs rest hf => ?_, fun level k x es rest hf => ?_⟩
    · have := length_chars_pos (l := l) level j
      omega
    · have := length_chars_pos (l := l) (level + 1) x
      rw [List.length_append] at hf
      omega
    · have := length_chars_pos (l := l) (level + 1) x
      rw [List.length_append] at hf
      omega
  | succ fuel ih =>
    obtain ⟨hvalues, hitems, hentries⟩ := ih
    refine ⟨fun level j rest hf h => ?_, fun level x xs rest hf => ?_,
      fun level k x es rest hf => ?_⟩
    · match j with
      | .null => rfl
      | .bool true => rfl
      | .bool false => rfl
      | .number n => exact readValue_number n h
      | .string s => exact readValue_string s
      | .array [] => rfl
      | .array (x :: xs) =>
        rw [chars, List.length_cons, List.length_append] at hf
        rw [chars, List.cons_append, List.append_assoc, List.append_assoc]
        exact readValue_array (hitems level x xs rest (by omega))
      | .object [] => rfl
      | .object ((k, x) :: es) =>
        simp only [chars, List.length_cons, List.length_append] at hf
        have hread := hentries level k x es rest (by rw [List.length_append]; omega)
        rw [quotedChars_append] at hread
        simp only [chars, List.cons_append, List.append_assoc, quotedChars_append]
        exact readValue_object hread
    -- items: the first is a value, and behind a comma come the others
    · have hx := length_chars_pos (l := l) (level + 1) x
      rw [List.length_append] at hf
      have htail : 0 < (l.items level xs).length := by cases xs <;> simp [items]
      rw [readItems, hvalues (level + 1) x _ (by omega) (stops_items level xs rest)]
      cases xs with
      | nil =>
        simp only [items, List.append_assoc, skipSpace_gap, List.singleton_append]
        rfl
      | cons y ys =>
        rw [items, List.length_cons, List.length_append] at hf
        have hread := hitems level y ys rest (by omega)
        simp only [items, List.cons_append, List.append_assoc,
          skipSpace_of_begins (show Begins ',' by decide), readItems_gap, hread, Option.map_some]
        rfl
    -- entries: the same, with a key and a colon in front of the value
    · have hx := length_chars_pos (l := l) (level + 1) x
      rw [List.length_append] at hf
      have htail : 0 < (l.entries level es).length := by
        rcases es with _ | ⟨⟨k, y⟩, es⟩ <;> simp [entries]
      have hvalue : readValue fuel (l.pad ++ (l.chars (level + 1) x ++
          (l.entries level es ++ rest))) = some (Raw.reread x, l.entries level es ++ rest) := by
        rw [readValue_congr (skipSpace_append l.isSpace_pad _)]
        exact hvalues (level + 1) x _ (by omega) (stops_entries level es rest)
      rw [quotedChars_append, readEntries]
      simp only [skipSpace_of_begins (show Begins '"' by decide), readString_escaped,
        String.ofList_toList, skipSpace_of_begins (show Begins ':' by decide), hvalue]
      rcases es with _ | ⟨⟨k, y⟩, es⟩
      · simp only [entries, List.append_assoc, skipSpace_gap, List.singleton_append]
        rfl
      · simp only [entries, List.length_cons, List.length_append] at hf
        have hread := hentries level k y es rest (by rw [List.length_append]; omega)
        simp only [entries, List.cons_append, List.append_assoc,
          skipSpace_of_begins (show Begins ',' by decide), readEntries_gap, hread, Option.map_some]
        rfl

/-- **A text in a layout is read back**, its numbers as they are read. -/
theorem ofText?_chars (j : Json) :
    Raw.ofText? (String.ofList (l.chars 0 j)) = some (Raw.reread j) := by
  have hread := (read_chars (l := l) ((l.chars 0 j).length + 1)).1 0 j [] (by omega)
    Decimal.stops_nil
  rw [List.append_nil] at hread
  rw [Raw.ofText?, String.toList_ofList]
  simp only [hread]
  rfl

end Layout

/-! ## Both ways of writing -/

mutual

theorem compactChars_eq (level : Nat) (j : Json) :
    j.compactChars = Layout.compact.chars level j := by
  match j with
  | .null | .bool true | .bool false | .number _ | .string _ | .array [] | .object [] => rfl
  | .array (x :: xs) =>
    rw [compactChars, compactChars_eq (level + 1) x, compactItems_eq level xs]
    rfl
  | .object ((k, x) :: es) =>
    rw [compactChars, compactChars_eq (level + 1) x, compactEntries_eq level es]
    rfl

theorem compactItems_eq (level : Nat) (xs : List Json) :
    compactItems xs = Layout.compact.items level xs := by
  match xs with
  | [] => rfl
  | x :: xs =>
    rw [compactItems, compactChars_eq (level + 1) x, compactItems_eq level xs]
    rfl

theorem compactEntries_eq (level : Nat) (es : List (String × Json)) :
    compactEntries es = Layout.compact.entries level es := by
  match es with
  | [] => rfl
  | (k, x) :: es =>
    rw [compactEntries, compactChars_eq (level + 1) x, compactEntries_eq level es]
    rfl

end

mutual

theorem prettyChars_eq (level : Nat) (j : Json) :
    j.prettyChars level = Layout.pretty.chars level j := by
  match j with
  | .null | .bool true | .bool false | .number _ | .string _ | .array [] | .object [] => rfl
  | .array (x :: xs) =>
    rw [prettyChars, prettyChars_eq (level + 1) x, prettyItems_eq level xs, List.append_assoc]
    rfl
  | .object ((k, x) :: es) =>
    rw [prettyChars, prettyChars_eq (level + 1) x, prettyEntries_eq level es, List.append_assoc]
    rfl

theorem prettyItems_eq (level : Nat) (xs : List Json) :
    prettyItems level xs = Layout.pretty.items level xs := by
  match xs with
  | [] => rfl
  | x :: xs =>
    rw [prettyItems, prettyChars_eq (level + 1) x, prettyItems_eq level xs, List.append_assoc]
    rfl

theorem prettyEntries_eq (level : Nat) (es : List (String × Json)) :
    prettyEntries level es = Layout.pretty.entries level es := by
  match es with
  | [] => rfl
  | (k, x) :: es =>
    rw [prettyEntries, prettyChars_eq (level + 1) x, prettyEntries_eq level es, List.append_assoc]
    rfl

end

/-- **A document in one line is read back**, its numbers as they are
read. -/
theorem ofText?_compact (j : Json) : Raw.ofText? j.compact = some (Raw.reread j) := by
  rw [compact, compactChars_eq 0 j]
  exact Layout.ofText?_chars j

/-- **So is a document over several lines.** -/
theorem ofText?_pretty (j : Json) : Raw.ofText? j.pretty = some (Raw.reread j) := by
  rw [pretty, prettyChars_eq 0 j]
  exact Layout.ofText?_chars j

end Json

end Flowchart
