import Flowchart.Pattern.Basic
import Flowchart.Pattern.Shorthand

/-!
# Matching

What a pattern matches, as a map between sets of places in a text: from the places where a match may
begin to those where it may end. A text matches if some part of it does.
-/

namespace Flowchart

namespace Pattern

/-! ## Conditions -/

/-- The character is there and belongs to words. -/
def isWord (unicode : Bool) (c : Option Char) : Bool :=
  c.any (Shorthand.word.set unicode).contains

/-- The condition holds between two characters; none stands at an end of the text. -/
def Look.holds (before after : Option Char) : Look → Bool
  | textStart => before.isNone
  | textEnd => after.isNone
  | lineStart => before.isNone || before == some '\n'
  | lineEnd => after.isNone || after == some '\n'
  | anyLineStart =>
    before.isNone || before == some '\n' || (before == some '\r' && after != some '\n')
  | anyLineEnd =>
    after.isNone || after == some '\r' || (after == some '\n' && before != some '\r')
  | edge u => isWord u before != isWord u after
  | noEdge u => isWord u before == isWord u after
  | wordStart u => !isWord u before && isWord u after
  | wordEnd u => isWord u before && !isWord u after
  | noWordBefore u => !isWord u before
  | noWordAfter u => !isWord u after

/-! ## Places -/

/-- A set of places in a text: one entry for the place before each character, one for the end. -/
abbrev Places := List Bool

namespace Places

/-- The places of either set. -/
def union (a b : Places) : Places :=
  List.zipWith (· || ·) a b

/-- The places of a set that are not in another one. -/
def without (a b : Places) : Places :=
  List.zipWith (fun x y => x && !y) a b

/-- The places at which a condition holds; `before` is the character before the first one. -/
def looking (l : Look) : (before : Option Char) → List Char → Places → Places
  | before, c :: text, p :: ps =>
    (p && l.holds before (some c)) :: looking l (some c) text ps
  | before, [], p :: ps => (p && l.holds before none) :: ps
  | _, _, [] => []

/-- The places after a character of a kind. -/
def past (kind : Char → Bool) (text : List Char) (ps : Places) : Places :=
  false :: List.zipWith (fun p c => p && kind c) ps text

/-- Applies a step `n` times. Where no place is left, or none moves, no step changes anything. -/
def times (step : Places → Places) : Nat → Places → Places
  | 0, ps => ps
  | n + 1, ps =>
    if ps.any id then
      let next := step ps
      if next = ps then ps else times step n next
    else ps

/-- The places of `seen` and all that up to `n` steps from those of `fresh` reach. Every round goes on
from the places that the one before has added. -/
def spread (step : Places → Places) : Nat → (seen fresh : Places) → Places
  | 0, seen, _ => seen
  | n + 1, seen, fresh =>
    let fresh := (step fresh).without seen
    if fresh.any id then spread step n (seen.union fresh) fresh else seen

end Places

/-! ## Matches -/

/-- The places where a match may end that begins at one of the given places. Without an upper bound,
as many rounds as there are places reach all of them. -/
def ends (text : List Char) : Pattern → Places → Places
  | empty, ps => ps
  | literal cs, ps => cs.foldl (fun ps c => ps.past (c == ·) text) ps
  | oneOf set _, ps => ps.past set.contains text
  | look l, ps => ps.looking l none text
  | group _ p, ps => p.ends text ps
  | seq p q, ps => q.ends text (p.ends text ps)
  | alt p q, ps => (p.ends text ps).union (q.ends text ps)
  | repeated p least greatest _, ps =>
    let more := match greatest with
      | some n => n - least
      | none => text.length + 1
    let ps := Places.times (p.ends text) least ps
    Places.spread (p.ends text) more ps ps

/-- Some part of the text matches. -/
def matchesIn (p : Pattern) (s : String) : Bool :=
  let text := s.toList
  (p.ends text (List.replicate (text.length + 1) true)).any id

end Pattern

end Flowchart
