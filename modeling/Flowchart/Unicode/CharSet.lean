import Flowchart.Unicode.Ranges

/-!
# Sets of characters

A set of characters is kept as the places at which membership changes, in ascending order, so two sets
with the same members are equal. Every operation on two sets is one sweep over their edges; the main
statement, `contains_combine`, says that a sweep applies a Boolean operation to memberships.
-/

namespace Flowchart

/-- A set of characters. Characters are counted without the gap of the surrogates; the first edge
starts the members, the second one ends them, and so on. -/
structure CharSet where
  /-- Where membership changes. -/
  edges : List Nat
  /-- The edges ascend. -/
  ascending : edges.Pairwise (· < ·) := by decide
deriving DecidableEq

namespace CharSet

/-! ## Sweeps -/

/-- Puts an edge in front if it is one. -/
def edge (changes : Bool) (n : Nat) (rest : List Nat) : List Nat :=
  if changes then n :: rest else rest

/-- The edges of a combination; `a` and `b` are the memberships before the edges that are left. -/
def sweep (op : Bool → Bool → Bool) : (a b : Bool) → List Nat → List Nat → List Nat
  | a, b, [], ys => if op a b = op a (!b) then [] else ys
  | a, b, x :: xs, [] => if op a b = op (!a) b then [] else x :: xs
  | a, b, x :: xs, y :: ys =>
    if x < y then edge (op a b != op (!a) b) x (sweep op (!a) b xs (y :: ys))
    else if y < x then edge (op a b != op a (!b)) y (sweep op a (!b) (x :: xs) ys)
    else edge (op a b != op (!a) (!b)) x (sweep op (!a) (!b) xs ys)
termination_by _ _ xs ys => xs.length + ys.length

theorem lt_of_mem_edge {c : Bool} {m n : Nat} {rest : List Nat} (h : m < n)
    (hrest : ∀ z ∈ rest, m < z) : ∀ z ∈ edge c n rest, m < z := by
  unfold edge
  split
  · simpa [h] using hrest
  · exact hrest

/-- A sweep invents no edges. -/
theorem lt_of_mem_sweep {op : Bool → Bool → Bool} {m : Nat} :
    ∀ {a b : Bool} {xs ys : List Nat}, (∀ z ∈ xs, m < z) → (∀ z ∈ ys, m < z) →
      ∀ z ∈ sweep op a b xs ys, m < z := by
  intro a b xs ys
  fun_induction sweep op a b xs ys with
  | case1 | case3 => simp
  | case2 => exact fun _ hy => hy
  | case4 => exact fun hx _ => hx
  | case5 a b x xs y ys _ ih =>
    intro hx hy
    exact lt_of_mem_edge (hx x (by simp)) (ih (fun z hz => hx z (by simp [hz])) hy)
  | case6 a b x xs y ys _ _ ih =>
    intro hx hy
    exact lt_of_mem_edge (hy y (by simp)) (ih hx fun z hz => hy z (by simp [hz]))
  | case7 a b x xs y ys _ _ ih =>
    intro hx hy
    exact lt_of_mem_edge (hx x (by simp))
      (ih (fun z hz => hx z (by simp [hz])) fun z hz => hy z (by simp [hz]))

theorem pairwise_edge {c : Bool} {n : Nat} {rest : List Nat} (h : rest.Pairwise (· < ·))
    (hn : ∀ z ∈ rest, n < z) : (edge c n rest).Pairwise (· < ·) := by
  unfold edge
  split
  · exact List.pairwise_cons.2 ⟨hn, h⟩
  · exact h

/-- The edges of a combination ascend as those of its sides do. -/
theorem pairwise_sweep {op : Bool → Bool → Bool} :
    ∀ {a b : Bool} {xs ys : List Nat}, xs.Pairwise (· < ·) → ys.Pairwise (· < ·) →
      (sweep op a b xs ys).Pairwise (· < ·) := by
  intro a b xs ys
  fun_induction sweep op a b xs ys with
  | case1 | case3 => simp
  | case2 => exact fun _ hy => hy
  | case4 => exact fun hx _ => hx
  | case5 a b x xs y ys hxy ih =>
    intro hx hy
    have hxs := List.pairwise_cons.1 hx
    have hys := List.pairwise_cons.1 hy
    refine pairwise_edge (ih hxs.2 hy) (lt_of_mem_sweep hxs.1 ?_)
    simp only [List.mem_cons, forall_eq_or_imp]
    exact ⟨hxy, fun z hz => Nat.lt_trans hxy (hys.1 z hz)⟩
  | case6 a b x xs y ys _ hyx ih =>
    intro hx hy
    have hxs := List.pairwise_cons.1 hx
    have hys := List.pairwise_cons.1 hy
    refine pairwise_edge (ih hx hys.2) (lt_of_mem_sweep ?_ hys.1)
    simp only [List.mem_cons, forall_eq_or_imp]
    exact ⟨hyx, fun z hz => Nat.lt_trans hyx (hxs.1 z hz)⟩
  | case7 a b x xs y ys hxy hyx ih =>
    intro hx hy
    have hxs := List.pairwise_cons.1 hx
    have hys := List.pairwise_cons.1 hy
    have : x = y := by omega
    subst this
    exact pairwise_edge (ih hxs.2 hys.2) (lt_of_mem_sweep hxs.1 hys.1)

/-! ## Membership -/

/-- A count of characters without the surrogates, up to a code point. -/
def index (n : Nat) : Nat :=
  if n < 0xD800 then n else n - 0x800

/-- The code point with an index. -/
def codeOf (i : Nat) : Nat :=
  if i < 0xD800 then i else i + 0x800

/-- An odd number of edges lies at or before an index. -/
def crossed (n : Nat) : List Nat → Bool
  | [] => false
  | e :: es => if n < e then false else !crossed n es

/-- The character with a code point is a member. -/
def containsCode (s : CharSet) (n : Nat) : Bool :=
  crossed (index n) s.edges

/-- The character is a member. -/
def contains (s : CharSet) (c : Char) : Bool :=
  s.containsCode c.toNat

theorem crossed_of_lt {n : Nat} {es : List Nat} (h : ∀ e ∈ es, n < e) : crossed n es = false := by
  cases es with
  | nil => rfl
  | cons e es => simp [crossed, h e (by simp)]

/-- An edge is crossed by what lies behind it. -/
theorem crossed_edge {p q r : Bool} {n e : Nat} {rest : List Nat} (hn : ¬n < e)
    (h : crossed n rest = (r ^^ q)) : crossed n (edge (p != q) e rest) = (r ^^ p) := by
  cases p <;> cases q <;> simp_all [edge, crossed]

theorem crossed_cons_of_not_lt {n e : Nat} {es : List Nat} (hn : ¬n < e) :
    crossed n (e :: es) = !crossed n es := by
  simp [crossed, hn]

theorem lt_of_lt_head {n x : Nat} {xs : List Nat} (h : (x :: xs).Pairwise (· < ·)) (hn : n < x) :
    ∀ z ∈ x :: xs, n < z := by
  simp only [List.mem_cons, forall_eq_or_imp]
  exact ⟨hn, fun z hz => Nat.lt_trans hn ((List.pairwise_cons.1 h).1 z hz)⟩

/-- Before the first edge there is no change. -/
theorem crossed_sweep_of_lt {op : Bool → Bool → Bool} {n : Nat} {a b : Bool} {xs ys : List Nat}
    (hx : ∀ z ∈ xs, n < z) (hy : ∀ z ∈ ys, n < z) :
    crossed n (sweep op a b xs ys) = (op (a ^^ crossed n xs) (b ^^ crossed n ys) ^^ op a b) := by
  rw [crossed_of_lt hx, crossed_of_lt hy, crossed_of_lt (lt_of_mem_sweep hx hy)]
  simp

/-- A sweep changes exactly where the combination of the memberships does. -/
theorem crossed_sweep {op : Bool → Bool → Bool} {n : Nat} :
    ∀ {a b : Bool} {xs ys : List Nat}, xs.Pairwise (· < ·) → ys.Pairwise (· < ·) →
      crossed n (sweep op a b xs ys) =
        (op (a ^^ crossed n xs) (b ^^ crossed n ys) ^^ op a b) := by
  intro a b xs ys
  fun_induction sweep op a b xs ys with
  | case1 a b ys h =>
    intro _ _
    cases hc : crossed n ys <;> simp_all [crossed]
  | case2 a b ys h =>
    intro _ _
    cases hc : crossed n ys <;> cases ha : op a b <;> cases hb : op a (!b) <;> simp_all [crossed]
  | case3 a b x xs h =>
    intro _ _
    cases hc : crossed n (x :: xs) <;> simp_all [crossed]
  | case4 a b x xs h =>
    intro _ _
    cases hc : crossed n (x :: xs) <;> cases ha : op a b <;> cases hb : op (!a) b <;>
      simp_all [crossed]
  | case5 a b x xs y ys hxy ih =>
    intro hx hy
    by_cases hn : n < x
    · have : crossed n (sweep op a b (x :: xs) (y :: ys)) = _ :=
        crossed_sweep_of_lt (lt_of_lt_head hx hn) (lt_of_lt_head hy (Nat.lt_trans hn hxy))
      rwa [sweep, if_pos hxy] at this
    · rw [crossed_cons_of_not_lt hn, Bool.xor_not, ← Bool.not_xor]
      exact crossed_edge hn (ih (List.pairwise_cons.1 hx).2 hy)
  | case6 a b x xs y ys hxy hyx ih =>
    intro hx hy
    by_cases hn : n < y
    · have : crossed n (sweep op a b (x :: xs) (y :: ys)) = _ :=
        crossed_sweep_of_lt (lt_of_lt_head hx (Nat.lt_trans hn hyx)) (lt_of_lt_head hy hn)
      rwa [sweep, if_neg hxy, if_pos hyx] at this
    · rw [crossed_cons_of_not_lt hn, Bool.xor_not, ← Bool.not_xor]
      exact crossed_edge hn (ih hx (List.pairwise_cons.1 hy).2)
  | case7 a b x xs y ys hxy hyx ih =>
    intro hx hy
    have heq : x = y := by omega
    subst heq
    by_cases hn : n < x
    · have : crossed n (sweep op a b (x :: xs) (x :: ys)) = _ :=
        crossed_sweep_of_lt (lt_of_lt_head hx hn) (lt_of_lt_head hy hn)
      rwa [sweep, if_neg hxy, if_neg hyx] at this
    · rw [crossed_cons_of_not_lt hn, crossed_cons_of_not_lt hn, Bool.xor_not, Bool.xor_not,
        ← Bool.not_xor, ← Bool.not_xor]
      exact crossed_edge hn (ih (List.pairwise_cons.1 hx).2 (List.pairwise_cons.1 hy).2)

/-! ## Operations -/

/-- The set without members. -/
def empty : CharSet where
  edges := []

instance : Inhabited CharSet := ⟨empty⟩

/-- Applies a Boolean operation to memberships; characters in neither set are left out. -/
def combine (op : Bool → Bool → Bool) (s t : CharSet) : CharSet where
  edges := sweep op false false s.edges t.edges
  ascending := pairwise_sweep s.ascending t.ascending

/-- A combination has what the operation says, if it leaves out what neither side has. -/
theorem contains_combine {op : Bool → Bool → Bool} (h : op false false = false) (s t : CharSet)
    (c : Char) : (combine op s t).contains c = op (s.contains c) (t.contains c) := by
  simp [contains, containsCode, combine, crossed_sweep s.ascending t.ascending, h]

/-- The members of either set. -/
def union : CharSet → CharSet → CharSet := combine or

/-- The members of both sets. -/
def inter : CharSet → CharSet → CharSet := combine and

/-- The members of the first set that are not in the second. -/
def diff : CharSet → CharSet → CharSet := combine fun a b => a && !b

/-- The members of exactly one of the sets. -/
def symmDiff : CharSet → CharSet → CharSet := combine xor

/-- All characters. -/
def full : CharSet where
  edges := [0]

/-- The characters that are no members. -/
def complement (s : CharSet) : CharSet := full.diff s

/-- The characters of a range of code points. -/
def range (low high : Nat) : CharSet :=
  if h : index low < index (high + 1) ∧ high < 0x10FFFF then
    { edges := [index low, index (high + 1)], ascending := by simpa using h.1 }
  else if high < 0x10FFFF then empty
  else { edges := [index low], ascending := by simp }

/-- One character. -/
def single (c : Char) : CharSet :=
  range c.toNat c.toNat

/-- The characters with some code points. -/
def ofCodes (codes : List Nat) : CharSet :=
  (codes.mergeSort (· ≤ ·)).foldr (fun n s => (range n n).union s) empty

/-- The characters of some ranges of code points. -/
def ofRanges (rs : Unicode.Ranges) : CharSet :=
  rs.foldr (fun r s => (range r.1 r.2).union s) empty

/-- The set that a table lists. -/
def ofTable (table : String) : CharSet :=
  ofRanges (.ofText table)

/-- The members of any of some sets. -/
def unions (sets : List CharSet) : CharSet :=
  sets.foldl union empty

@[simp] theorem contains_union (s t : CharSet) (c : Char) :
    (s.union t).contains c = (s.contains c || t.contains c) := contains_combine rfl s t c

@[simp] theorem contains_inter (s t : CharSet) (c : Char) :
    (s.inter t).contains c = (s.contains c && t.contains c) := contains_combine rfl s t c

@[simp] theorem contains_diff (s t : CharSet) (c : Char) :
    (s.diff t).contains c = (s.contains c && !t.contains c) := contains_combine rfl s t c

@[simp] theorem contains_symmDiff (s t : CharSet) (c : Char) :
    (s.symmDiff t).contains c = (s.contains c ^^ t.contains c) := contains_combine rfl s t c

@[simp] theorem contains_empty (c : Char) : empty.contains c = false := rfl

@[simp] theorem contains_full (c : Char) : full.contains c = true := by
  simp [contains, containsCode, full, crossed]

@[simp] theorem contains_complement (s : CharSet) (c : Char) :
    s.complement.contains c = !s.contains c := by
  simp [complement]

/-! ## Ranges -/

/-- The ranges between edges; the last one may be open. -/
def rangesBetween : List Nat → Unicode.Ranges
  | [] => []
  | [low] => [(codeOf low, 0x10FFFF)]
  | low :: next :: es => (codeOf low, codeOf (next - 1)) :: rangesBetween es

/-- The members as ranges of code points, in ascending order. A range may reach over the
surrogates. -/
def ranges (s : CharSet) : Unicode.Ranges :=
  rangesBetween s.edges

/-- All members are ASCII. -/
def isAscii (s : CharSet) : Bool :=
  s.ranges.all fun r => r.2 < 128

/-- The only member, if there is one. -/
def single? (s : CharSet) : Option Char :=
  match s.ranges with
  | [(low, high)] =>
    if low = high then (if h : low.isValidChar then some (Char.ofNatAux low h) else none) else none
  | _ => none

end CharSet

end Flowchart
