import Flowchart.Pattern.Reader.Class
import Flowchart.Unicode.Newest

/-!
# Reading patterns

The written form of patterns: alternatives, groups with names and flags, repetitions, classes and
escapes. There is neither looking around nor referring back.
-/

namespace Flowchart

namespace Pattern

namespace Reader

/-- The groups that have been opened. -/
structure Groups where
  /-- How many have a number. -/
  count : Nat := 0
  /-- The names. -/
  names : List (List Char) := []

/-! ## Flags and names of groups -/

/-- Reads flags up to the colon or bracket after them; every sign may be there once, and a minus is
not the last one. -/
def readFlags (seen : List Char) (on : Bool) : List Char → Option (Changes × Char × List Char)
  | [] => none
  | c :: text =>
    if c = ':' ∨ c = ')' then
      if seen.head? = some '-' ∨ (c = ')' ∧ seen.isEmpty) then none else some ([], c, text)
    else if seen.contains c then none
    else if c = '-' then readFlags (c :: seen) false text
    else
      match Flag.ofChar? c, readFlags (c :: seen) on text with
      | some flag, some (changes, close, rest) => some ((flag, on) :: changes, close, rest)
      | _, _ => none

/-- The character may stand in the name of a group. -/
def isNameChar (first : Bool) (c : Char) : Bool :=
  c == '_' ||
    if first then Unicode.Newest.alphabetic.contains c
    else c == '.' || c == '[' || c == ']' || Unicode.Newest.alphanumeric.contains c

/-- Reads the name of a group up to the bracket after it. -/
def readName (text : List Char) : Option (List Char × List Char) :=
  match Text.cutAt? '>' text with
  | some (c :: name, rest) =>
    if isNameChar true c && name.all (isNameChar false) then some (c :: name, rest) else none
  | _ => none

/-- How a group begins. -/
inductive Opening where
  /-- Flags for the rest of the group around. -/
  | flags (changes : Changes)
  /-- A group without a number, with flags of its own. -/
  | flagged (changes : Changes)
  /-- A group with a number, and with a name perhaps. -/
  | numbered (name : Option (List Char))

/-- Reads what follows the opening bracket of a group. -/
def readOpening : List Char → Option (Opening × List Char)
  | '?' :: 'P' :: '<' :: text => (readName text).map fun (n, rest) => (.numbered (some n), rest)
  | '?' :: '<' :: '=' :: _ | '?' :: '<' :: '!' :: _ => none
  | '?' :: '<' :: text => (readName text).map fun (n, rest) => (.numbered (some n), rest)
  | '?' :: text =>
    (readFlags [] true text).map fun (changes, c, rest) =>
      if c = ')' then (.flags changes, rest) else (.flagged changes, rest)
  | text => some (.numbered none, text)

/-- Whether white space is skipped after changes of flags. -/
def verboseAfter (verbose : Bool) (changes : Changes) : Bool :=
  (changes.lookup .verbose).getD verbose

/-! ## Repetitions -/

/-- Repeats the last part, which has to be there; flags are no part. -/
def repeatLast? (least : Nat) (greatest : Option Nat) (greedy : Bool) :
    List Written → Option (List Written)
  | [] | .flags _ :: _ => none
  | p :: parts => some (.repeated p least greatest greedy :: parts)

/-- Whether a repetition is greedy, by the question mark after it, and the rest. -/
def readGreed : List Char → Bool × List Char
  | '?' :: rest => (false, rest)
  | rest => (true, rest)

/-- Reads a number of 32 bits with white space around. -/
def readCount (verbose : Bool) (text : List Char) : Option (Nat × List Char) :=
  let (ds, rest) := run verbose Decimal.isDigit false (Text.skipBlank text)
  if ds.isEmpty then none
  else if Decimal.value ds < 0x100000000 then some (Decimal.value ds, Text.skipBlank rest)
  else none

/-- Reads the bounds of a repetition after the opening brace. -/
def readBounds (verbose : Bool) (text : List Char) : Option (Nat × Option Nat × List Char) := do
  let (least, text) ← readCount verbose (skip verbose text)
  let (greatest, text) ← match text with
    | ',' :: text =>
      match skip verbose text with
      | '\x7d' :: rest => some (none, '\x7d' :: rest)
      | text => (readCount verbose text).map fun (n, rest) => (some n, rest)
    | text => some (some least, text)
  match text with
  | '\x7d' :: rest =>
    if greatest.all (least ≤ ·) then some (least, greatest, skip verbose rest) else none
  | _ => none

/-! ## Patterns -/

/-- Reads an escape, a dot, an anchor or a character. -/
def readPrimitive (verbose : Bool) : List Char → Option (Written × List Char)
  | [] => none
  | '\\' :: text =>
    (readEscape verbose text).map fun (a, rest) =>
      match a with
      | .letter l => (.letter l, rest)
      | .shorthand kind negated => (.oneOf (.shorthand kind negated), rest)
      | .unicode query negated => (.oneOf (.unicode query negated), rest)
      | .anchor a => (.anchor a, rest)
  | '.' :: rest => some (.dot, rest)
  | '^' :: rest => some (.anchor .caret, rest)
  | '$' :: rest => some (.anchor .dollar, rest)
  | c :: rest => some (.letter { char := c }, rest)

/-- The pattern of alternatives, each of several parts, all in reverse. -/
def assemble (choices : List Written) (parts : List Written) : Written :=
  .ofChoices (.ofParts parts.reverse :: choices).reverse

/-- Reads parts up to a closing bracket or the end. `choices` are the alternatives before, `parts`
what is read of the present one, the last ones first. -/
def readParts : (fuel : Nat) → (verbose : Bool) → Groups → (choices parts : List Written) →
    List Char → Option (Written × Groups × List Char)
  | 0, _, _, _, _, _ => none
  | fuel + 1, verbose, groups, choices, parts, text =>
    match skip verbose text with
    | [] => some (assemble choices parts, groups, [])
    | ')' :: rest => some (assemble choices parts, groups, ')' :: rest)
    | '|' :: rest =>
      readParts fuel verbose groups (.ofParts parts.reverse :: choices) [] rest
    | '?' :: rest =>
      let (greedy, rest) := readGreed rest
      (repeatLast? 0 (some 1) greedy parts).bind fun parts =>
        readParts fuel verbose groups choices parts rest
    | '*' :: rest =>
      let (greedy, rest) := readGreed rest
      (repeatLast? 0 none greedy parts).bind fun parts =>
        readParts fuel verbose groups choices parts rest
    | '+' :: rest =>
      let (greedy, rest) := readGreed rest
      (repeatLast? 1 none greedy parts).bind fun parts =>
        readParts fuel verbose groups choices parts rest
    | '\x7b' :: rest =>
      (readBounds verbose rest).bind fun (least, greatest, rest) =>
        let (greedy, rest) := readGreed rest
        (repeatLast? least greatest greedy parts).bind fun parts =>
          readParts fuel verbose groups choices parts rest
    | '[' :: rest =>
      (readClass verbose rest).bind fun (c, rest) =>
        readParts fuel verbose groups choices (.oneOf c :: parts) rest
    | '(' :: rest =>
      match readOpening (skip verbose rest) with
      | none => none
      | some (.flags changes, rest) =>
        readParts fuel (verboseAfter verbose changes) groups choices (.flags changes :: parts) rest
      | some (.flagged changes, rest) =>
        match readParts fuel (verboseAfter verbose changes) groups [] [] rest with
        | some (p, groups, ')' :: rest) =>
          readParts fuel verbose groups choices (.group (.flagged changes) p :: parts) rest
        | _ => none
      | some (.numbered name, rest) =>
        if name.any groups.names.contains then none
        else
          let index := groups.count + 1
          let inner : Groups := { count := index, names := name.toList ++ groups.names }
          match readParts fuel verbose inner [] [] rest with
          | some (p, groups, ')' :: rest) =>
            readParts fuel verbose groups choices (.group (.numbered index) p :: parts) rest
          | _ => none
    | text =>
      (readPrimitive verbose text).bind fun (p, rest) =>
        readParts fuel verbose groups choices (p :: parts) rest

end Reader

/-- Reads the written form of a pattern. -/
def Written.ofText? (s : String) : Option Written :=
  let text := s.toList
  match Reader.readParts (text.length + 1) false {} [] [] text with
  | some (p, _, []) => some p
  | _ => none

end Pattern

end Flowchart
