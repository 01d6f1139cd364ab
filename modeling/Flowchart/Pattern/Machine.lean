import Flowchart.Pattern.Basic
import Flowchart.Pattern.Bytes
import Std.Data.HashMap

/-!
# Machines

How large the machines of a pattern become: state machines on bytes, one that reads a text forward and
one that reads it backward. A pattern is refused if one of them outgrows a limit. States are numbered
in the order in which they are made; the machines of sets share states that do the same, as far as a
table of fixed size remembers them, and where a state is found in the table depends on the numbers.
-/

namespace Flowchart

namespace Pattern

namespace Machine

/-- How large a machine has become. -/
structure Size where
  /-- How many states it has. -/
  states : Nat := 0
  /-- The bytes of what states point to. -/
  extra : Nat := 0
deriving DecidableEq

namespace Size

/-- How many bytes the machine takes: 32 for each state and what states point to. -/
def bytes (z : Size) : Nat :=
  32 * z.states + z.extra

/-- The machine keeps to 10 MiB. -/
def fits (z : Size) : Bool :=
  z.bytes ≤ 10485760

/-- More states and bytes. -/
def add (z : Size) (states extra : Nat) : Size where
  states := z.states + states
  extra := z.extra + extra

/-- Grows `n` times, and stops when the limit is passed. -/
def times (grow : Size → Size) : Nat → Size → Size
  | 0, z => z
  | n + 1, z => if z.fits then times grow n (grow z) else z

end Size

/-- Which way a machine reads. -/
inductive Direction where
  /-- From the start of a text. -/
  | forward
  /-- From the end of a text. -/
  | backward
deriving DecidableEq

/-! ## Sets -/

/-- Byte sequences with their common beginnings: the first range of some, what follows it in these, and
the others. Nothing follows the last range of a sequence. -/
inductive Tree where
  /-- No sequence. -/
  | none
  /-- The sequences that start with a range, and others. -/
  | some (r : ByteRange) (rest others : Tree)

/-- Byte sequences that start with the same range, brought together; what follows the range is kept. -/
def groups : List (List ByteRange) → List (ByteRange × List (List ByteRange))
  | [] => []
  | [] :: seqs => groups seqs
  | (r :: rest) :: seqs =>
    match groups seqs with
    | (r', rests) :: gs => if r = r' then (r, rest :: rests) :: gs else (r, [rest]) :: (r', rests) :: gs
    | [] => [(r, [rest])]

/-- The tree of byte sequences; `levels` bounds their length. -/
def Tree.ofSequences : (levels : Nat) → List (List ByteRange) → Tree
  | 0, _ => none
  | levels + 1, seqs =>
    (groups seqs).foldr (fun (r, rests) others => some r (ofSequences levels rests) others) none

/-- What a state does: the states that it goes to, for ranges of bytes. -/
abbrev Moves := List (ByteRange × Nat)

/-- Mixes a number into a hash: it is added bit by bit and then spread by a multiplication. -/
def mix (h : UInt64) (n : Nat) : UInt64 :=
  (h ^^^ n.toUInt64) * 1099511628211

/-- The hash of nothing. -/
def seed : UInt64 := 14695981039346656037

/-- Mixes what a state does into a hash. -/
def mixMoves : UInt64 → Moves → UInt64
  | h, [] => h
  | h, (r, n) :: moves => mixMoves (mix (mix (mix h r.low) r.high) n) moves

/-- A machine in the making with a table of states that may be shared. Every entry of the table has
one place, where it replaces the one before. -/
structure Sharing (α : Type) where
  /-- The machine. -/
  size : Size
  /-- The table: what a state does, and its number. -/
  table : Std.HashMap Nat (α × Nat) := {}

/-- Makes a new state and gives its number. -/
def Sharing.make {α : Type} (s : Sharing α) (place : Nat) (does : α) (extra : Nat) :
    Nat × Sharing α :=
  let n := s.size.states
  (n, { size := s.size.add 1 extra, table := s.table.insert place (does, n) })

/-- The number of a state that does something: of a shared one, or of a new one. -/
def Sharing.state {α : Type} [DecidableEq α] (s : Sharing α) (place : Nat) (does : α)
    (extra : Nat) : Nat × Sharing α :=
  match s.table[place]? with
  | some (d, n) => if d = does then (n, s) else s.make place does extra
  | none => s.make place does extra

/-- The number of a state with these moves. -/
def Sharing.node (s : Sharing Moves) (moves : Moves) : Nat × Sharing Moves :=
  s.state (mixMoves seed moves % 10000).toNat moves (8 * moves.length)

/-- Makes the states behind the ranges of a tree and gives the moves to them, those of a state after its
own. `target` is the state after the set. -/
def readForward (target : Nat) : Tree → Sharing Moves → Moves × Sharing Moves
  | .none, s => ([], s)
  | .some r .none others, s =>
    let (moves, s) := readForward target others s
    ((r, target) :: moves, s)
  | .some r rest others, s =>
    let (moves, s) := readForward target rest s
    let (n, s) := s.node moves
    let (moves, s) := readForward target others s
    ((r, n) :: moves, s)

/-- Makes the states for one byte sequence that is read from its end, and gives the number of the last
one. -/
def readBackward : List ByteRange → (last : Nat) → Sharing (Nat × ByteRange) →
    Nat × Sharing (Nat × ByteRange)
  | [], last, s => (last, s)
  | r :: rest, last, s =>
    let place := mix (mix (mix seed last) r.low) r.high % 1000
    let (n, s) := s.state place.toNat (last, r) 0
    readBackward rest n s

/-- The growth by a set of ASCII: one state with all ranges. -/
def ofAscii (ranges : Nat) (z : Size) : Size :=
  z.add 2 (8 * ranges)

/-- The growth by a set with a tree of byte sequences: a state for each part of the tree, shared with
what does the same. -/
def ofTree (tree : Tree) (z : Size) : Size :=
  let (moves, s) := readForward z.states tree { size := z.add 1 0 }
  (s.node moves).2.size

/-- The growth by a set with these byte sequences: a state for each byte range, shared with what ends
alike. -/
def ofSequences (seqs : List (List ByteRange)) (z : Size) : Size :=
  let s : Sharing (Nat × ByteRange) := { size := z.add 2 (4 * seqs.length) }
  (seqs.foldl (fun s seq => (readBackward seq (z.states + 1) s).2) s).size

/-- The growth by a set. -/
def ofSet (d : Direction) (set : CharSet) : List (Size → Size) :=
  let seqs := ByteRange.ofSet set
  if seqs.all (·.length = 1) then [ofAscii seqs.length]
  else
    match d with
    | .forward => [ofTree (.ofSequences 4 seqs)]
    | .backward => [ofSequences seqs]

/-! ## Choices between texts -/

/-- The texts of a choice between texts. -/
def texts? : Pattern → Option (List (List Char))
  | .alt (.literal cs) (.literal ds) => some [cs, ds]
  | .alt (.literal cs) q => (texts? q).map (cs :: ·)
  | _ => none

/-- The words between empty words. -/
def cut : List (List Nat) → List (List (List Nat))
  | [] => [[]]
  | [] :: words => [] :: cut words
  | w :: words =>
    match cut words with
    | segment :: segments => (w :: segment) :: segments
    | [] => [[w]]

/-- The words between empty words; empty words at the start count once. -/
def segments (words : List (List Nat)) : List (List (List Nat)) :=
  if words.head? = some [] then [] :: cut (words.dropWhile (·.isEmpty)) else cut words

/-- What follows a first byte in words. -/
def restsAfter (b : Nat) (words : List (List Nat)) : List (List Nat) :=
  words.filterMap fun w =>
    match w with
    | c :: rest => if c = b then some rest else none
    | [] => none

/-- The growth by words that are read together, byte by byte; `levels` bounds their length. Wherever a
word ends, the words after it are kept apart from those before it. -/
def ofWords : (levels : Nat) → List (List Nat) → Size → Size
  | 0, _, z => z
  | levels + 1, words, z =>
    let segments := segments words
    let full := segments.filter (!·.isEmpty)
    let z := full.foldl (fun z segment =>
      let heads := (segment.filterMap List.head?).eraseDups
      let z := heads.foldl (fun z b =>
        let rests := restsAfter b segment
        if rests.all (·.isEmpty) then z else ofWords levels rests z) z
      z.add 1 (if heads.length = 1 then 0 else 8 * heads.length)) z
    z.add 1 (4 * (full.length + segments.length - 1))

/-- The growth by a choice between texts. -/
def ofTexts (d : Direction) (texts : List (List Char)) (z : Size) : Size :=
  let words := texts.map fun cs =>
    let bytes := cs.flatMap ByteRange.bytesOf
    if d = .backward then bytes.reverse else bytes
  let levels := words.foldl (fun n w => max n w.length) 0
  ofWords (levels + 1) words (z.add 1 0)

/-! ## Patterns -/

/-- The growth by a choice, from those by its alternatives. -/
def ofBranches : List (Size → Size) → Size → Size
  | [], z => z
  | [g], z => g z
  | g :: h :: gs, z => gs.foldl (fun z g => (g z).add 0 4) ((h (g z)).add 2 8)

/-- The growth by a pattern, from those by its alternatives. -/
def whole (d : Direction) (p : Pattern) (gs : List (Size → Size)) (z : Size) : Size :=
  match texts? p with
  | some texts => ofTexts d texts z
  | none => ofBranches gs z

/-- The growth by a repetition, from that by what is repeated. `moves` holds if every match of it has
a character. -/
def ofRepetition (grow : Size → Size) (moves : Bool) (least : Nat) (greatest : Option Nat)
    (z : Size) : Size :=
  match greatest with
  | none =>
    if 0 < least then (z.times grow least).add 1 8
    else if moves then (grow (z.add 1 0)).add 0 8
    else (grow z).add 3 16
  | some greatest =>
    if least = 0 ∧ greatest = 1 then (grow (z.add 1 0)).add 1 8
    else
      let z := if least = 0 then z.add 1 0 else z.times grow least
      if least < greatest then
        (z.add 1 0).times (fun z => (grow (z.add 1 0)).add 0 8) (greatest - least)
      else z

/-- The growths by the alternatives of a pattern. -/
def growths (d : Direction) : Pattern → List (Size → Size)
  | .empty | .look _ => [fun z => z.add 1 0]
  | .literal cs =>
    let count := (cs.flatMap ByteRange.bytesOf).length
    [fun z => z.add count 0]
  | .oneOf set _ => ofSet d set
  | .group _ p =>
    let grow := whole d p (growths d p)
    [if d = .forward then fun z => (grow (z.add 1 0)).add 1 0 else grow]
  | .seq p q =>
    let first := whole d p (growths d p)
    let rest := whole d q (growths d q)
    [if d = .forward then fun z => rest (first z) else fun z => first (rest z)]
  | .alt p q => growths d p ++ growths d q
  | .repeated p least greatest _ =>
    [ofRepetition (whole d p (growths d p)) (p.least?.any (0 < ·)) least greatest]

/-- Every match starts where the text does. -/
def startsText : Pattern → Bool
  | .look l => l = .textStart
  | .group _ p => startsText p
  | .repeated p least _ _ => 0 < least && startsText p
  | .seq p q => startsText p || (p.greatest? = some 0 && startsText q)
  | .alt p q => startsText p && startsText q
  | _ => false

/-- Every match ends where the text does. -/
def endsText : Pattern → Bool
  | .look l => l = .textEnd
  | .group _ p => endsText p
  | .repeated p least _ _ => 0 < least && endsText p
  | .seq p q => endsText q || (q.greatest? = some 0 && endsText p)
  | .alt p q => endsText p && endsText q
  | _ => false

/-- What a machine starts with: a loop over all bytes, unless matches keep to an end of the text. -/
def start (anchored : Bool) : Size :=
  if anchored then { states := 1 } else { states := 3, extra := 16 }

/-- The size of the machine that reads forward. It notes where the match and its groups are. -/
def forwardSize (p : Pattern) : Size :=
  (whole .forward p (growths .forward p) ((start (startsText p)).add 1 0)).add 2 0

/-- The size of the machine that reads backward. -/
def backwardSize (p : Pattern) : Size :=
  (whole .backward p (growths .backward p) (start (endsText p))).add 1 0

end Machine

/-- Machines for the pattern keep to the limit. Many texts are searched for by other means. -/
def fits (p : Pattern) : Bool :=
  (Machine.texts? p).any (3000 ≤ ·.length) ||
    ((Machine.forwardSize p).fits && (Machine.backwardSize p).fits)

end Pattern

end Flowchart
