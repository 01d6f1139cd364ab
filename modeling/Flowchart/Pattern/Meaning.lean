import Flowchart.Pattern.Basic
import Flowchart.Pattern.Named
import Flowchart.Pattern.Shorthand

/-!
# What written patterns mean

The pattern that a written one stands for under flags. There is none for a name that is not known, and
none for what would match a part of a character: outside of Unicode, sets keep to ASCII.
-/

namespace Flowchart

namespace Pattern

/-! ## Sets -/

/-- Ignores case if the flags say so. -/
def Flags.fold (f : Flags) (s : CharSet) : CharSet :=
  if f.caseless then (if f.unicode then s.folded else s.foldedAscii) else s

/-- The set, if it may be one under the flags. -/
def Flags.allow? (f : Flags) (s : CharSet) : Option CharSet :=
  if f.unicode || s.isAscii then some s else none

/-- Case and negation, in this order. -/
def Flags.finish? (f : Flags) (negated : Bool) (s : CharSet) : Option CharSet :=
  f.allow? (if negated then (f.fold s).complement else f.fold s)

/-- The set that is asked for. -/
def Query.set? : Query → Option CharSet
  | name text => Named.alone? text
  | value _ property text => Named.valued? property text

/-- All other characters are asked for. -/
def Query.isUnequal : Query → Bool
  | name _ => false
  | value unequal _ _ => unequal

/-- An operation on sets. -/
def SetOp.apply : SetOp → CharSet → CharSet → CharSet
  | inter => CharSet.inter
  | diff => CharSet.diff
  | symmDiff => CharSet.symmDiff

/-- The set of a class. Operations ignore case on both sides, and so does every pair of brackets. -/
def Class.set? (f : Flags) : Class → Option CharSet
  | empty => some .empty
  | letter l => f.allow? (.single l.char)
  | range l m => f.allow? (.range l.char.toNat m.char.toNat)
  | ascii name negated => f.finish? negated (Shorthand.ascii name)
  | shorthand kind negated =>
    let s := kind.set f.unicode
    f.allow? (if negated then s.complement else s)
  | unicode query negated =>
    if f.unicode then query.set?.bind (f.finish? (negated != query.isUnequal)) else none
  | bracketed negated c => (c.set? f).bind (f.finish? negated)
  | union c d => (c.set? f).bind fun s => (d.set? f).map s.union
  | op o c d => (c.set? f).bind fun s => (d.set? f).map fun t => o.apply (f.fold s) (f.fold t)

/-! ## Single characters and places -/

/-- The pattern of a character. Outside of Unicode a byte beyond ASCII is no character. -/
def Letter.pattern? (f : Flags) (l : Letter) : Option Pattern :=
  if !f.unicode && l.isByte && 128 ≤ l.char.toNat then none
  else some (ofSet (f.fold (.single l.char)) f.unicode)

/-- The pattern of a dot. -/
def dot? (f : Flags) : Option Pattern :=
  if f.unicode then
    let ends := if f.dotAll then "" else if f.anyLineEnd then "A D" else "A"
    some (ofSet (CharSet.ofTable ends).complement true)
  else none

/-- The condition that is meant. -/
def Anchor.look (f : Flags) : Anchor → Look
  | caret => if f.byLine then (if f.anyLineEnd then .anyLineStart else .lineStart) else .textStart
  | dollar => if f.byLine then (if f.anyLineEnd then .anyLineEnd else .lineEnd) else .textEnd
  | textStart => .textStart
  | textEnd => .textEnd
  | edge => .edge f.unicode
  | noEdge => .noEdge f.unicode
  | wordStart => .wordStart f.unicode
  | wordEnd => .wordEnd f.unicode
  | noWordBefore => .noWordBefore f.unicode
  | noWordAfter => .noWordAfter f.unicode

/-! ## Patterns -/

/-- The alternatives that a written pattern stands for, and the flags after it. -/
def Written.alternatives? (f : Flags) : Written → Option (List Pattern × Flags)
  | empty => some ([.empty], f)
  | flags changes => some ([.empty], f.change changes)
  | letter l => (l.pattern? f).map fun p => ([p], f)
  | dot => (dot? f).map fun p => ([p], f)
  | anchor a => some ([.look (a.look f)], f)
  | oneOf c => (c.set? f).map fun s => ([ofSet s f.unicode], f)
  | repeated p least greatest greedy =>
    (p.alternatives? f).map fun (ps, _) =>
      ([several (inChoice ps) least greatest (greedy != f.swapGreed)], f)
  | group (.numbered index) p =>
    (p.alternatives? f).map fun (ps, _) => ([.group index (inChoice ps)], f)
  | group (.flagged changes) p =>
    (p.alternatives? (f.change changes)).map fun (ps, _) => ([inChoice ps], f)
  | seq p q =>
    (p.alternatives? f).bind fun (ps, f) =>
      (q.alternatives? f).map fun (qs, f) => ([inSequence [inChoice ps, inChoice qs]], f)
  | alt p q =>
    (p.alternatives? f).bind fun (ps, f) => (q.alternatives? f).map fun (qs, f) => (ps ++ qs, f)

/-- The pattern that a written one stands for. -/
def Written.pattern? (w : Written) : Option Pattern :=
  (w.alternatives? {}).map fun (ps, _) => inChoice ps

end Pattern

end Flowchart
