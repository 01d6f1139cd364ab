import Flowchart.Graph.Cycles
import Mathlib.Data.List.Chain
import Mathlib.Data.List.Nodup
import Mathlib.Data.List.Perm.Subperm

/-!
# What a search keeps true

The graph is read as a relation: `Leads g a b` says that an edge goes
from the listed node `a` to `b`. A search is described by what holds
each time it stands at the end of a path (`Search.Valid`): the path lies
on what was visited in the order of the visits, every reported cycle is
one, and every node that was left for good is **settled**.

A node is settled when it is accessible along the edges that no reported
cycle closes, taken backwards (`Search.Open`). A settled node is on no
closed walk of such edges, and one visit settles its node or reports the
cycle that the last edge closes (`Search.visit_reaches`). Completeness
is that fact, with every node visited.
-/

namespace Flowchart

namespace Graph

variable {g : Graph} {a b : String}

/-- **An edge leads from a listed node to another node**, listed or
not. -/
def Leads (g : Graph) (a b : String) : Prop :=
  (∃ n ∈ g.nodes, n.id = a) ∧ ∃ e ∈ g.edges, e.source = a ∧ e.target = b

/-- The targets of a node are what its edges lead to. -/
theorem mem_targets_iff : b ∈ g.targets a ↔ g.Leads a b := by
  unfold targets Leads outgoing
  split
  case isTrue h =>
    have listed : ∃ n ∈ g.nodes, n.id = a := by simpa using h
    simp only [listed, true_and, List.mem_map, List.mem_filter, beq_iff_eq, and_assoc]
  case isFalse h =>
    have unlisted : ¬ ∃ n ∈ g.nodes, n.id = a := by simpa using h
    simp only [unlisted, false_and, List.not_mem_nil]

theorem Leads.mem_ids (h : g.Leads a b) : a ∈ g.nodes.map (·.id) := by
  obtain ⟨⟨n, hn, rfl⟩, -⟩ := h
  exact List.mem_map_of_mem hn

/-- **A walk along the edges that ends where it began.** -/
structure ClosedWalk (g : Graph) (w : List String) : Prop where
  /-- It takes an edge. -/
  moves : 2 ≤ w.length
  /-- Each node leads to the next one. -/
  chain : w.IsChain g.Leads
  /-- It ends where it began. -/
  closed : w.head? = w.getLast?

/-- **A closed walk that repeats no node but the first one, at its
end.** -/
structure IsCycle (g : Graph) (c : List String) : Prop extends ClosedWalk g c where
  /-- No node is met twice on the way. -/
  nodup : c.tail.Nodup

namespace Search

variable {s t u : Search} {path : List String} {node : String}

/-- **A reported cycle ends with this edge.** The cycle is known by its
written form, by which reports are told apart. -/
def Closes (g : Graph) (s : Search) (a b : String) : Prop :=
  ∃ d, g.IsCycle d ∧ [a, b] <:+ d ∧ ∃ c ∈ s.cycles, Cycle.render c = Cycle.render d

/-- **An edge that no reported cycle ends with**, taken backwards. -/
def Open (g : Graph) (s : Search) (b a : String) : Prop :=
  g.Leads a b ∧ ¬ s.Closes g a b

/-! ## Searching on only adds -/

/-- **Nothing is forgotten** between two states of a search. -/
structure Grows (s t : Search) : Prop where
  /-- Later visits come in front. -/
  visited : s.visited <:+ t.visited
  /-- Later cycles come behind. -/
  cycles : s.cycles <+: t.cycles

namespace Grows

theorem refl (s : Search) : s.Grows s :=
  ⟨List.suffix_refl _, List.prefix_refl _⟩

theorem trans (h : s.Grows t) (h' : t.Grows u) : s.Grows u :=
  ⟨h.visited.trans h'.visited, h.cycles.trans h'.cycles⟩

theorem closes (h : s.Grows t) (hc : s.Closes g a b) : t.Closes g a b := by
  obtain ⟨d, hd, hab, c, hcs, hr⟩ := hc
  exact ⟨d, hd, hab, c, h.cycles.subset hcs, hr⟩

/-- What is settled stays settled. -/
theorem settled (h : s.Grows t) (ha : Acc (s.Open g) a) : Acc (t.Open g) a :=
  Subrelation.accessible (fun hab => ⟨hab.1, fun hc => hab.2 (h.closes hc)⟩) ha

end Grows

theorem grows_report (s : Search) (c : Cycle) : s.Grows (s.report c) := by
  unfold report
  split
  · exact .refl s
  · exact ⟨List.suffix_refl _, List.prefix_append _ _⟩

@[simp] theorem visited_report (s : Search) (c : Cycle) :
    (s.report c).visited = s.visited := by
  unfold report
  split <;> rfl

/-- A reported cycle is there, up to its written form. -/
theorem exists_of_report (s : Search) (c : Cycle) :
    ∃ d ∈ (s.report c).cycles, Cycle.render d = Cycle.render c := by
  unfold report
  split
  case isTrue h => simpa using h
  case isFalse h => exact ⟨c, by simp, rfl⟩

/-! ## The end of a path -/

/-- **What holds while a search is at the end of a path.** -/
structure Valid (g : Graph) (path : List String) (s : Search) : Prop where
  /-- No node is visited twice. -/
  once : s.visited.Nodup
  /-- The path was visited in its order. -/
  onPath : path.reverse.Sublist s.visited
  /-- Reports are cycles, whose nodes were visited in their order. -/
  cycles : ∀ c ∈ s.cycles, g.IsCycle c ∧ c.dropLast.reverse.Sublist s.visited
  /-- Reports are told apart by their written form. -/
  apart : s.cycles.Pairwise fun c d => Cycle.render c ≠ Cycle.render d
  /-- What was visited and left is settled. -/
  settled : ∀ a ∈ s.visited, a ∉ path → Acc (s.Open g) a

/-- **A node is done with**: it is settled, or a reported cycle ends with
the edge to it from the end of the path. -/
def Done (g : Graph) (path : List String) (s : Search) (node : String) : Prop :=
  Acc (s.Open g) node ∨ ∃ a, path.getLast? = some a ∧ s.Closes g a node

theorem Grows.done (h : s.Grows t) (hd : s.Done g path node) : t.Done g path node := by
  rcases hd with hd | ⟨a, ha, hc⟩
  · exact .inl (h.settled hd)
  · exact .inr ⟨a, ha, h.closes hc⟩

/-- **What the visits to some nodes bring about**, from the end of a path
and back to it. -/
structure Reaches (g : Graph) (path nodes : List String) (s t : Search) : Prop where
  /-- The search is back at the end of its path. -/
  valid : t.Valid g path
  /-- Nothing was forgotten. -/
  grows : s.Grows t
  /-- The nodes are done with. -/
  done : ∀ node ∈ nodes, t.Done g path node
  /-- The nodes were visited. -/
  seen : ∀ node ∈ nodes, node ∈ t.visited

namespace Reaches

variable {nodes : List String}

theorem nil (hs : s.Valid g path) : s.Reaches g path [] s :=
  ⟨hs, .refl s, by simp, by simp⟩

theorem cons (h : s.Reaches g path [node] t) (h' : t.Reaches g path nodes u) :
    s.Reaches g path (node :: nodes) u where
  valid := h'.valid
  grows := h.grows.trans h'.grows
  done := List.forall_mem_cons.2
    ⟨h'.grows.done (h.done node (List.mem_singleton.2 rfl)), h'.done⟩
  seen := List.forall_mem_cons.2
    ⟨h'.grows.visited.subset (h.seen node (List.mem_singleton.2 rfl)), h'.seen⟩

/-- **Visits one after another**: what one brings about, all do. -/
theorem foldl {visit : String → Search → Search} (hs : s.Valid g path)
    (hvisit : ∀ node ∈ nodes, ∀ s : Search, s.Valid g path →
      s.Reaches g path [node] (visit node s)) :
    s.Reaches g path nodes (nodes.foldl (fun s node => visit node s) s) := by
  induction nodes generalizing s with
  | nil => exact .nil hs
  | cons node nodes ih =>
    have first := hvisit node List.mem_cons_self s hs
    exact first.cons (ih first.valid fun n hn => hvisit n (List.mem_cons_of_mem _ hn))

end Reaches

/-- A path visits no node twice. -/
theorem Valid.nodup (h : s.Valid g path) : path.Nodup :=
  List.nodup_reverse.1 (h.onPath.nodup h.once)

/-- The nodes of a path that goes on are listed, so it is no longer than
the graph has nodes. -/
theorem Valid.length_le (h : s.Valid g path) (hp : (path ++ [node]).IsChain g.Leads) :
    path.length ≤ g.nodes.length := by
  have listed : path ⊆ g.nodes.map (·.id) := by
    intro a ha
    obtain ⟨l, r, rfl⟩ := List.append_of_mem ha
    rw [List.append_assoc, List.cons_append] at hp
    -- what comes behind `a` is the rest of the path, or the node it goes on to
    cases r with
    | nil => exact (List.isChain_append_cons_cons.1 hp).2.1.mem_ids
    | cons b r => exact (List.isChain_append_cons_cons.1 hp).2.1.mem_ids
  simpa using (List.subperm_of_subset h.nodup listed).length_le

/-! ## Coming back to the path -/

theorem exists_dropWhile (h : node ∈ path) :
    ∃ l r, path = l ++ node :: r ∧ path.dropWhile (· ≠ node) = node :: r := by
  obtain ⟨l, r, rfl, hl⟩ := List.eq_append_cons_of_mem h
  refine ⟨l, r, rfl, ?_⟩
  rw [List.dropWhile_append_of_pos]
  · simp
  · intro x hx
    simpa using fun hxn : x = node => hl (hxn ▸ hx)

/-- **The part of a path from a node on it, closed, is a cycle.** -/
theorem isCycle_of_mem (hn : path.Nodup) (hp : (path ++ [node]).IsChain g.Leads)
    (h : node ∈ path) : g.IsCycle (path.dropWhile (· ≠ node) ++ [node]) := by
  obtain ⟨l, r, rfl, hdrop⟩ := exists_dropWhile h
  rw [hdrop]
  refine ⟨⟨by simp, hp.suffix ⟨l, by simp⟩, ?_⟩, ?_⟩
  · rw [List.getLast?_append, List.getLast?_singleton]
    rfl
  -- behind its first node the cycle is that part of the path, rotated by one
  · have hr : ([node] ++ r).Nodup := (List.nodup_append.1 hn).2.1
    exact List.nodup_append_comm.1 hr

/-- The edge that closes it leaves the end of the path. -/
theorem suffix_of_getLast? (h : node ∈ path) (ha : path.getLast? = some a) :
    [a, node] <:+ path.dropWhile (· ≠ node) ++ [node] := by
  obtain ⟨l, r, rfl, hdrop⟩ := exists_dropWhile h
  rw [hdrop]
  rw [List.getLast?_append_cons] at ha
  obtain ⟨k, hk⟩ := List.getLast?_eq_some_iff.1 ha
  exact ⟨k, by simp [hk]⟩

/-- **A visit to a node of the path** reports the cycle through it. -/
theorem reaches_of_mem (hs : s.Valid g path) (hp : (path ++ [node]).IsChain g.Leads)
    (h : node ∈ path) :
    s.Reaches g path [node] (s.report (path.dropWhile (· ≠ node) ++ [node])) := by
  set c := path.dropWhile (· ≠ node) ++ [node] with hc
  have hcycle : g.IsCycle c := isCycle_of_mem hs.nodup hp h
  have grows := grows_report s c
  refine ⟨⟨?_, ?_, ?_, ?_, ?_⟩, grows, List.forall_mem_singleton.2 ?_,
    List.forall_mem_singleton.2 ?_⟩
  · simpa using hs.once
  · simpa using hs.onPath
  · rw [visited_report]
    intro d hd
    unfold report at hd
    split at hd
    · exact hs.cycles d hd
    · rcases List.mem_append.1 hd with hd | hd
      · exact hs.cycles d hd
      · obtain rfl := List.mem_singleton.1 hd
        -- the new cycle ends the path, and the path was visited in its order
        refine ⟨hcycle, ?_⟩
        rw [hc, List.dropLast_concat]
        exact ((List.dropWhile_suffix _).reverse.sublist).trans hs.onPath
  · unfold report
    split
    case isTrue => exact hs.apart
    case isFalse hnew =>
      refine List.pairwise_append.2 ⟨hs.apart, List.pairwise_singleton _ _, ?_⟩
      simpa using hnew
  · intro a ha hap
    rw [visited_report] at ha
    exact grows.settled (hs.settled a ha hap)
  · right
    obtain ⟨a, ha⟩ : ∃ a, path.getLast? = some a :=
      Option.isSome_iff_exists.1 (by simpa using List.ne_nil_of_mem h)
    exact ⟨a, ha, c, hcycle, suffix_of_getLast? h ha, exists_of_report s c⟩
  · rw [visited_report]
    exact hs.onPath.subset (List.mem_reverse.2 h)

/-! ## Going on from a node -/

/-- **A visit to a node that was left for good** changes nothing. -/
theorem reaches_of_visited (hs : s.Valid g path) (hp : node ∉ path) (h : node ∈ s.visited) :
    s.Reaches g path [node] s :=
  ⟨hs, .refl s, List.forall_mem_singleton.2 (.inl (hs.settled node h hp)),
    List.forall_mem_singleton.2 h⟩

/-- A search enters a new node. -/
theorem Valid.enter (hs : s.Valid g path) (h : node ∉ s.visited) :
    Valid g (path ++ [node]) { s with visited := node :: s.visited } where
  once := List.nodup_cons.2 ⟨h, hs.once⟩
  onPath := by
    rw [List.reverse_concat]
    exact hs.onPath.cons_cons node
  cycles c hc := ⟨(hs.cycles c hc).1, ((hs.cycles c hc).2).cons node⟩
  apart := hs.apart
  settled a ha hap := by
    rw [List.mem_append, List.mem_singleton, not_or] at hap
    exact hs.settled a ((List.mem_cons.1 ha).resolve_left hap.2) hap.1

/-- **A search leaves a node settled**, once the targets of its edges are
done with. -/
theorem Reaches.leave
    (h : Reaches g (path ++ [node]) (g.targets node) { s with visited := node :: s.visited } t) :
    s.Reaches g path [node] t := by
  have seen : node ∈ t.visited := h.grows.visited.subset List.mem_cons_self
  have settled : Acc (t.Open g) node := by
    -- an edge that a report ends with is not open, so its target is settled
    refine .intro node fun b hb => ?_
    rcases h.done b (mem_targets_iff.2 hb.1) with hd | ⟨a, ha, hc⟩
    · exact hd
    · rw [List.getLast?_concat] at ha
      obtain rfl := Option.some.inj ha
      exact absurd hc hb.2
  refine ⟨⟨h.valid.once, ?_, h.valid.cycles, h.valid.apart, fun a ha hap => ?_⟩,
    ⟨(List.suffix_cons _ _).trans h.grows.visited, h.grows.cycles⟩,
    List.forall_mem_singleton.2 (.inl settled), List.forall_mem_singleton.2 seen⟩
  · have onPath := h.valid.onPath
    rw [List.reverse_concat] at onPath
    exact (List.sublist_cons_self _ _).trans onPath
  · by_cases han : a = node
    · exact han ▸ settled
    · exact h.valid.settled a ha (by simp [hap, han])

/-! ## A visit -/

/-- **A visit is done with its node**: the fuel is enough, since a path
is no longer than the graph has nodes. -/
theorem visit_reaches {fuel : Nat} (hf : g.nodes.length < fuel + path.length)
    (hp : (path ++ [node]).IsChain g.Leads) (hs : s.Valid g path) :
    s.Reaches g path [node] (visit g.targets fuel path node s) := by
  induction fuel generalizing path node s with
  | zero =>
    -- there is no path so long
    have := hs.length_le hp
    omega
  | succ fuel ih =>
    rw [visit]
    split
    case isTrue h => exact reaches_of_mem hs hp h
    case isFalse hpath =>
      split
      case isTrue h => exact reaches_of_visited hs hpath h
      case isFalse hnew =>
        refine Reaches.leave (.foldl (hs.enter hnew) fun next hnext s hs => ?_)
        refine ih ?_ ?_ hs
        · rw [List.length_append, List.length_singleton]
          omega
        · rw [List.append_assoc]
          exact List.isChain_append_cons_cons.2
            ⟨hp, mem_targets_iff.1 hnext, List.isChain_singleton next⟩

end Search

/-- **The search of a graph is done with all of its nodes.** -/
theorem search_reaches (g : Graph) :
    Search.Reaches g [] (g.nodes.map (·.id)) {} g.search := by
  have start : Search.Valid g [] {} :=
    ⟨List.nodup_nil, List.Sublist.slnil, by simp, List.Pairwise.nil, by simp⟩
  unfold search
  rw [← List.foldl_map (f := fun n : Node => n.id)
    (g := fun s id => Search.visit g.targets (g.nodes.length + 1) [] id s)]
  refine .foldl start fun node _ s hs => ?_
  exact Search.visit_reaches (by simp) (List.isChain_singleton node) hs

end Graph

end Flowchart
