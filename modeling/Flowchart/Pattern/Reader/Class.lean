import Flowchart.Pattern.Reader.Escape

/-!
# Classes in brackets

Items, ranges, nested classes, ASCII classes with a name, and operations between sets. Operations bind
equally, to the left, and weaker than standing side by side.
-/

namespace Flowchart

namespace Pattern

namespace Reader

/-- The names of ASCII classes, which are written between `[:` and `:]`. -/
def asciiNames : List String :=
  ["alnum", "alpha", "ascii", "blank", "cntrl", "digit", "graph", "lower", "print", "punct", "space",
   "upper", "word", "xdigit"]

/-- Reads an ASCII class after its first bracket, if there is one. -/
def readAsciiClass : List Char → Option (Class × List Char)
  | ':' :: text =>
    let (negated, text) := match text with
      | '^' :: r => (true, r)
      | r => (false, r)
    match Text.cutAt? ':' text with
    | some (name, ']' :: rest) =>
      if asciiNames.any (·.toList == name) then some (.ascii name negated, rest) else none
    | _ => none
  | _ => none

/-- Reads one item: a character or an escape. -/
def readItem (verbose : Bool) : List Char → Option (Atom × List Char)
  | [] => none
  | '\\' :: text => readEscape verbose text
  | c :: text => some (.letter { char := c }, text)

/-- An item of a class that stands alone. Conditions are none. -/
def Atom.class? : Atom → Option Class
  | .letter l => some (.letter l)
  | .shorthand kind negated => some (.shorthand kind negated)
  | .unicode query negated => some (.unicode query negated)
  | .anchor _ => none

/-- Reads an item of a class or a range between two characters. A hyphen at the end of the class or
before another one makes no range. -/
def readRange (verbose : Bool) (text : List Char) : Option (Class × List Char) :=
  (readItem verbose text).bind fun (first, text) =>
    match skip verbose text with
    | '-' :: rest =>
      let next := peekPast verbose rest
      if next = some ']' ∨ next = some '-' then first.class?.map (·, '-' :: rest)
      else
        match first, readItem verbose (skip verbose rest) with
        | .letter l, some (.letter m, rest) =>
          if l.char ≤ m.char then some (.range l m, rest) else none
        | _, _ => none
    | [] => none
    | text => first.class?.map (·, text)

/-- The head of a class after its bracket: whether it is negated, and the hyphens or the bracket at
its start, which stand for themselves. -/
def readHead (verbose : Bool) (text : List Char) : Bool × List Class × List Char :=
  let (negated, text) := match skip verbose text with
    | '^' :: r => (true, skip verbose r)
    | r => (false, r)
  match run verbose (· == '-') false text with
  | ([], ']' :: rest) => (negated, [.letter { char := ']' }], rest)
  | (hyphens, rest) => (negated, hyphens.map fun c => .letter { char := c }, rest)

/-- An operation sign at the start of a text. -/
def readOp : List Char → Option (SetOp × List Char)
  | '&' :: '&' :: rest => some (.inter, rest)
  | '-' :: '-' :: rest => some (.diff, rest)
  | '~' :: '~' :: rest => some (.symmDiff, rest)
  | _ => none

/-- Completes the operation that waits for its right side. -/
def complete (before : Option (SetOp × Class)) (items : List Class) : Class :=
  let right := Class.ofItems items.reverse
  match before with
  | none => right
  | some (o, left) => .op o left right

/-- Reads a class after its head up to its closing bracket. `before` is the operation that waits for
its right side, `items` what is read of that side, the last one first. -/
def readBody (verbose : Bool) : (fuel : Nat) → (before : Option (SetOp × Class)) →
    (items : List Class) → List Char → Option (Class × List Char)
  | 0, _, _, _ => none
  | fuel + 1, before, items, text =>
    match skip verbose text with
    | [] => none
    | ']' :: rest => some (complete before items, rest)
    | '[' :: inner =>
      match readAsciiClass inner with
      | some (c, rest) => readBody verbose fuel before (c :: items) rest
      | none =>
        let (negated, start, inner) := readHead verbose inner
        match readBody verbose fuel none start.reverse inner with
        | none => none
        | some (c, rest) => readBody verbose fuel before (.bracketed negated c :: items) rest
    | text =>
      match readOp text with
      | some (o, rest) => readBody verbose fuel (some (o, complete before items)) [] rest
      | none =>
        match readRange verbose text with
        | none => none
        | some (c, rest) => readBody verbose fuel before (c :: items) rest

/-- Reads a class after its bracket. -/
def readClass (verbose : Bool) (text : List Char) : Option (Class × List Char) :=
  let (negated, start, inner) := readHead verbose text
  (readBody verbose (text.length + 1) none start.reverse inner).map fun (c, rest) =>
    (.bracketed negated c, rest)

end Reader

end Pattern

end Flowchart
