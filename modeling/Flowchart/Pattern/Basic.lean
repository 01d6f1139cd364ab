import Flowchart.Unicode.CharSet

/-!
# Patterns

Patterns as they are matched. Sequences and choices lean to the right. The functions that build
patterns keep a normal form: texts side by side are joined, nothing at all is left out of sequences,
choices between single characters become sets, and what all alternatives begin with is written once.
-/

namespace Flowchart

/-- A condition on the characters beside a place. -/
inductive Pattern.Look where
  /-- The start of the text. -/
  | textStart
  /-- The end of the text. -/
  | textEnd
  /-- The start of a line; lines end with a line feed. -/
  | lineStart
  /-- The end of a line. -/
  | lineEnd
  /-- The start of a line; lines end with a carriage return, a line feed or both. -/
  | anyLineStart
  /-- The end of such a line. -/
  | anyLineEnd
  /-- A word starts or ends here. -/
  | edge (unicode : Bool)
  /-- No word starts or ends here. -/
  | noEdge (unicode : Bool)
  /-- A word starts here. -/
  | wordStart (unicode : Bool)
  /-- A word ends here. -/
  | wordEnd (unicode : Bool)
  /-- No character of a word stands before. -/
  | noWordBefore (unicode : Bool)
  /-- No character of a word stands after. -/
  | noWordAfter (unicode : Bool)
deriving DecidableEq

/-- A pattern. -/
inductive Pattern where
  /-- Nothing at all. -/
  | empty
  /-- A text. -/
  | literal (cs : List Char)
  /-- A character of a set; sets that were written without Unicode are told apart. -/
  | oneOf (set : CharSet) (unicode : Bool)
  /-- Nothing, where a condition holds. -/
  | look (l : Pattern.Look)
  /-- Several times, with or without an upper bound. -/
  | repeated (p : Pattern) (least : Nat) (greatest : Option Nat) (greedy : Bool)
  /-- A part with a number. -/
  | group (index : Nat) (p : Pattern)
  /-- One after the other. -/
  | seq (first rest : Pattern)
  /-- One or the other. -/
  | alt (first rest : Pattern)
deriving DecidableEq

namespace Pattern

instance : Inhabited Pattern := ⟨.empty⟩

/-! ## Lengths -/

/-- The fewest characters that a match has; none if there is no match. -/
def least? : Pattern → Option Nat
  | empty | look _ => some 0
  | literal cs => some cs.length
  | oneOf s _ => if s = .empty then none else some 1
  | repeated p least _ _ => p.least?.map (· * least)
  | group _ p => p.least?
  | seq p q => p.least?.bind fun m => q.least?.map (m + ·)
  | alt p q => p.least?.bind fun m => q.least?.map (min m ·)

/-- The most characters that a match has; none if there is no bound or no match. -/
def greatest? : Pattern → Option Nat
  | empty | look _ => some 0
  | literal cs => some cs.length
  | oneOf s _ => if s = .empty then none else some 1
  | repeated p _ greatest _ => p.greatest?.bind fun m => greatest.map (m * ·)
  | group _ p => p.greatest?
  | seq p q => p.greatest?.bind fun m => q.greatest?.map (m + ·)
  | alt p q => p.greatest?.bind fun m => q.greatest?.map (max m ·)

/-! ## Sequences -/

/-- The parts of a sequence. -/
def parts : Pattern → List Pattern
  | empty => []
  | seq p q => p :: q.parts
  | p => [p]

/-- Puts a part in front of others; a text is joined with a text. -/
def joinPart : Pattern → List Pattern → List Pattern
  | literal cs, literal ds :: ps => literal (cs ++ ds) :: ps
  | p, ps => p :: ps

/-- The sequence of some parts that need no joining. -/
def chain : List Pattern → Pattern
  | [] => empty
  | [p] => p
  | p :: ps => seq p (chain ps)

/-- One after the other. -/
def inSequence (ps : List Pattern) : Pattern :=
  chain ((ps.flatMap parts).foldr joinPart [])

/-! ## Sets and choices -/

/-- A character of a set; the set of one character is a text. -/
def ofSet (set : CharSet) (unicode : Bool) : Pattern :=
  match set.single? with
  | some c => literal [c]
  | none => if set = .empty then oneOf .empty false else oneOf set unicode

/-- The alternatives of a choice. -/
def branches : Pattern → List Pattern
  | alt p q => p :: q.branches
  | p => [p]

/-- The choice between some alternatives, of which there is one. -/
def fork : List Pattern → Pattern
  | [] => empty
  | [p] => p
  | p :: ps => alt p (fork ps)

/-- The character of a text of one character. -/
def char? : Pattern → Option CharSet
  | literal [c] => some (.single c)
  | _ => none

/-- The set of a pattern that is one. -/
def set? : Pattern → Option CharSet
  | oneOf s _ => some s
  | _ => none

/-- The union of the sets of all patterns, if they all have one. -/
def unite? (set? : Pattern → Option CharSet) : List Pattern → Option CharSet
  | [] => some .empty
  | p :: ps => (set? p).bind fun s => (unite? set? ps).map s.union

/-- A choice that has nothing in common to all alternatives in front: between single characters, or
between sets, it is a set. -/
def choose (ps : List Pattern) : Pattern :=
  let ps := ps.flatMap branches
  match ps with
  | [] | [_] => fork ps
  | _ =>
    match unite? char? ps <|> unite? set? ps with
    | some s => ofSet s true
    | none => fork ps

/-- The parts that two lists begin with. -/
def common : List Pattern → List Pattern → List Pattern
  | p :: ps, q :: qs => if p = q then p :: common ps qs else []
  | _, _ => []

/-- The parts that all alternatives begin with, if they are sequences of several parts. -/
def front : List Pattern → List Pattern
  | [] => []
  | p :: ps =>
    if (p :: ps).all (2 ≤ ·.parts.length) then (ps.map parts).foldl common p.parts else []

/-- One or another of some alternatives. -/
def inChoice (ps : List Pattern) : Pattern :=
  match choose ps with
  | alt p q =>
    let branches := (alt p q).branches
    match front branches with
    | [] => alt p q
    | shared =>
      let rests := branches.map fun b => inSequence (b.parts.drop shared.length)
      inSequence (shared ++ [choose rests])
  | p => p

/-! ## Repetitions -/

/-- Several times. What matches nothing but the empty text is repeated once at most. -/
def several (p : Pattern) (least : Nat) (greatest : Option Nat) (greedy : Bool) : Pattern :=
  let (least, greatest) :=
    if p.greatest? = some 0 then (min least 1, some (min (greatest.getD 1) 1)) else (least, greatest)
  if greatest = some 0 then empty
  else if least = 1 ∧ greatest = some 1 then p
  else repeated p least greatest greedy

end Pattern

end Flowchart
