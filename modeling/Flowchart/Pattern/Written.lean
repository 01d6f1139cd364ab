import Flowchart.Pattern.Flags

/-!
# Patterns as they are written

The structure of a pattern's text. What its parts mean depends on flags; how deep they nest does not.
Chains of parts, alternatives and items lean to the right, so that a part of a chain is never a chain
of the same kind itself.
-/

namespace Flowchart

namespace Pattern

/-- Classes with a letter of their own. -/
inductive Shorthand where
  /-- Digits. -/
  | digit
  /-- White space. -/
  | space
  /-- Characters of words. -/
  | word
deriving DecidableEq

/-- How a set of Unicode is asked for. -/
inductive Query where
  /-- By a name alone. -/
  | name (text : List Char)
  /-- By a property and its value; `unequal` asks for all other characters. -/
  | value (unequal : Bool) (property text : List Char)
deriving DecidableEq

/-- An operation between two sets. -/
inductive SetOp where
  /-- What is in both. -/
  | inter
  /-- What is in the first one only. -/
  | diff
  /-- What is in one of them only. -/
  | symmDiff
deriving DecidableEq

/-- A character as it is written. -/
structure Letter where
  /-- The character. -/
  char : Char
  /-- It is given by two hexadecimal digits. -/
  isByte : Bool := false
deriving DecidableEq

/-- A class, or a part of one. -/
inductive Class where
  /-- Nothing. -/
  | empty
  /-- A character. -/
  | letter (l : Letter)
  /-- All characters between two. -/
  | range (first last : Letter)
  /-- A class of ASCII with a name. -/
  | ascii (name : List Char) (negated : Bool)
  /-- A class with a letter of its own. -/
  | shorthand (kind : Shorthand) (negated : Bool)
  /-- A set of Unicode. -/
  | unicode (query : Query) (negated : Bool)
  /-- What stands in brackets. -/
  | bracketed (negated : Bool) (inner : Class)
  /-- An item and those after it. -/
  | union (first rest : Class)
  /-- An operation. -/
  | op (o : SetOp) (left right : Class)

/-- A condition on the characters beside a place, as it is written. -/
inductive Anchor where
  /-- The start of the text or of a line. -/
  | caret
  /-- The end of the text or of a line. -/
  | dollar
  /-- The start of the text. -/
  | textStart
  /-- The end of the text. -/
  | textEnd
  /-- A word starts or ends here. -/
  | edge
  /-- No word starts or ends here. -/
  | noEdge
  /-- A word starts here. -/
  | wordStart
  /-- A word ends here. -/
  | wordEnd
  /-- No character of a word stands before. -/
  | noWordBefore
  /-- No character of a word stands after. -/
  | noWordAfter
deriving DecidableEq

/-- How a group is meant. -/
inductive GroupKind where
  /-- What it matches is kept under a number. -/
  | numbered (index : Nat)
  /-- It has flags of its own. -/
  | flagged (changes : Changes)

/-- A pattern as it is written. -/
inductive Written where
  /-- Nothing. -/
  | empty
  /-- Flags for what follows. -/
  | flags (changes : Changes)
  /-- A character. -/
  | letter (l : Letter)
  /-- Any character. -/
  | dot
  /-- A condition. -/
  | anchor (a : Anchor)
  /-- A character of a class. -/
  | oneOf (c : Class)
  /-- Several times, with or without an upper bound. -/
  | repeated (p : Written) (least : Nat) (greatest : Option Nat) (greedy : Bool)
  /-- A group. -/
  | group (kind : GroupKind) (p : Written)
  /-- A part and those after it. -/
  | seq (first rest : Written)
  /-- An alternative and those after it. -/
  | alt (first rest : Written)

instance : Inhabited Class := ⟨.empty⟩

instance : Inhabited Written := ⟨.empty⟩

/-! ## Depth -/

namespace Class

/-- Items that stand side by side. -/
def ofItems : List Class → Class
  | [] => empty
  | [c] => c
  | c :: cs => union c (ofItems cs)

/-- How deep a class nests. The items of one chain are all at the same depth. -/
def depth : Class → Nat
  | bracketed _ c => c.depth + 1
  | union c (union d e) => max (c.depth + 1) (union d e).depth
  | union c d => max c.depth d.depth + 1
  | op _ c d => max c.depth d.depth + 1
  | _ => 0

end Class

namespace Written

/-- Parts one after the other. -/
def ofParts : List Written → Written
  | [] => empty
  | [p] => p
  | p :: ps => seq p (ofParts ps)

/-- One of several alternatives. -/
def ofChoices : List Written → Written
  | [] => empty
  | [p] => p
  | p :: ps => alt p (ofChoices ps)

/-- How deep a pattern nests. The parts of one chain are all at the same depth. -/
def depth : Written → Nat
  | oneOf c => c.depth
  | repeated p _ _ _ => p.depth + 1
  | group _ p => p.depth + 1
  | seq p (seq q r) => max (p.depth + 1) (seq q r).depth
  | seq p q => max p.depth q.depth + 1
  | alt p (alt q r) => max (p.depth + 1) (alt q r).depth
  | alt p q => max p.depth q.depth + 1
  | _ => 0

end Written

end Pattern

end Flowchart
