import Flowchart.Proofs.Graph.Search
import Flowchart.Proofs.Text.Search
import Mathlib.Data.List.Rotate

/-!
# Cycles are found

The reports of a search, as properties of the graph: every report is a
cycle, no two reports are rotations of each other, and every closed walk
takes the closing edge of a report (`cycles_describe`). So nothing is reported exactly when no
node leads back to itself (`cycles_eq_nil_iff`), which does not depend
on the order of nodes and edges.

A cycle is handed on as a line of text. The line reads back as one list
of identifiers where no identifier has an arrow in it (`Arrowless`).
-/

namespace Flowchart

namespace Graph

variable {g h : Graph} {a b : String} {w : List String}

/-! ## Closed walks -/

namespace ClosedWalk

/-- A closed walk leaves its first node and comes back to it. -/
theorem exists_eq (hw : g.ClosedWalk w) :
    ∃ a b l, w = a :: b :: l ∧ (b :: l).getLast (List.cons_ne_nil b l) = a := by
  obtain ⟨moves, -, closed⟩ := hw
  match w, moves, closed with
  | a :: b :: l, _, closed =>
    rw [List.head?_cons, List.getLast?_cons_cons,
      List.getLast?_eq_getLast_of_ne_nil (List.cons_ne_nil b l)] at closed
    exact ⟨a, b, l, rfl, (Option.some.inj closed).symm⟩

/-- It comes back along any relation that holds on its way. -/
theorem transGen {r : String → String → Prop} (hw : g.ClosedWalk w) (hr : w.IsChain r) :
    ∃ a ∈ w, Relation.TransGen r a a := by
  obtain ⟨a, b, l, rfl, hl⟩ := hw.exists_eq
  obtain ⟨hab, hl'⟩ := List.isChain_cons_cons.1 hr
  exact ⟨a, List.mem_cons_self,
    .head' hab (List.relationReflTransGen_of_exists_isChain_cons l hl' hl)⟩

/-- The nodes of a closed walk are listed. -/
theorem mem_ids (hw : g.ClosedWalk w) (ha : a ∈ w) : a ∈ g.nodes.map (·.id) := by
  obtain ⟨b, c, l, rfl, hl⟩ := hw.exists_eq
  have first : b ∈ g.nodes.map (·.id) := (List.isChain_cons_cons.1 hw.chain).1.mem_ids
  obtain ⟨l₁, l₂, hsplit⟩ := List.append_of_mem ha
  cases l₂ with
  | nil =>
    have last : (b :: c :: l).getLast? = some a := by rw [hsplit, List.getLast?_concat]
    rw [List.getLast?_cons_cons, List.getLast?_eq_getLast_of_ne_nil (List.cons_ne_nil c l),
      hl] at last
    exact Option.some.inj last ▸ first
  | cons d l₂ => exact (List.isChain_iff_forall_rel_of_append_cons_cons.1 hw.chain hsplit).mem_ids

end ClosedWalk

/-! ## Every closed walk closes a report -/

/-- An accessible node does not come back to itself. -/
theorem not_transGen_of_acc {α : Type} {r : α → α → Prop} {x : α} (hx : Acc r x) :
    ¬ Relation.TransGen r x x := by
  replace hx := hx.transGen
  induction hx with
  | intro y _ ih => exact fun hy => ih y hy hy

/-- At the end of the search every listed node is settled. -/
theorem settled (ha : a ∈ g.nodes.map (·.id)) : Acc (g.search.Open g) a := by
  rcases (search_reaches g).done a ha with hd | ⟨b, hb, -⟩
  · exact hd
  · cases hb

/-- **Every closed walk takes an edge that a report ends with**: along
other edges no settled node comes back to itself. -/
theorem exists_closes (hw : g.ClosedWalk w) :
    ∃ a b, [a, b] <:+: w ∧ g.search.Closes g a b := by
  by_contra hno
  -- all edges of the walk are open, and they lead back to a settled node
  have chain : w.IsChain fun a b => g.search.Open g b a := by
    refine List.isChain_iff_forall_rel_of_append_cons_cons.2 fun a b l₁ l₂ hsplit => ⟨?_, ?_⟩
    · exact List.isChain_iff_forall_rel_of_append_cons_cons.1 hw.chain hsplit
    · exact fun hc => hno ⟨a, b, ⟨l₁, l₂, by simp [hsplit]⟩, hc⟩
  obtain ⟨a, ha, hback⟩ := hw.transGen chain
  exact not_transGen_of_acc (settled (hw.mem_ids ha)) (Relation.transGen_swap.1 hback)

/-- **No node leads back to itself.** -/
def Acyclic (g : Graph) : Prop :=
  ∀ a, ¬ Relation.TransGen g.Leads a a

/-- **Nothing is reported exactly when the graph is acyclic.** -/
theorem cycles_eq_nil_iff : g.cycles = [] ↔ g.Acyclic := by
  constructor
  · intro hnil a hback
    have opened : g.Leads ≤ fun x y => g.search.Open g y x := by
      intro x y hxy
      refine ⟨hxy, fun ⟨_, _, _, c, hc, _⟩ => ?_⟩
      rw [show g.search.cycles = [] from hnil] at hc
      exact List.not_mem_nil hc
    obtain ⟨b, hab, -⟩ := Relation.TransGen.head'_iff.1 hback
    exact not_transGen_of_acc (settled hab.mem_ids)
      (Relation.transGen_swap.1 (Relation.TransGen.mono opened a a hback))
  · intro hno
    refine List.eq_nil_iff_forall_not_mem.2 fun c hc => ?_
    have hcycle := ((search_reaches g).valid.cycles c hc).1
    obtain ⟨a, -, hback⟩ := hcycle.transGen hcycle.chain
    exact hno a hback

/-! ## Reports are apart -/

/-- A cycle is told by its nodes before it closes. -/
theorem IsCycle.eq_of_dropLast {c d : List String} (hc : g.IsCycle c) (hd : g.IsCycle d)
    (heq : c.dropLast = d.dropLast) : c = d := by
  obtain ⟨a, b, l, rfl, hl⟩ := hc.exists_eq
  obtain ⟨a', b', l', rfl, hl'⟩ := hd.exists_eq
  rw [List.dropLast_cons_cons, List.dropLast_cons_cons, List.cons.injEq] at heq
  obtain ⟨rfl, heq⟩ := heq
  -- both close with the node they share in front
  rw [← List.dropLast_append_getLast (List.cons_ne_nil b l),
    ← List.dropLast_append_getLast (List.cons_ne_nil b' l'), heq, hl, hl']

/-- **No report is another one, started elsewhere**: the nodes of both
were visited in the order in which they stand. -/
theorem pairwise_not_isRotated (g : Graph) :
    g.cycles.Pairwise fun c d => ¬ c.dropLast.IsRotated d.dropLast := by
  have valid := (search_reaches g).valid
  refine valid.apart.imp_of_mem fun {c d} hc hd hne hrot => hne ?_
  obtain ⟨hcycle, hvisited⟩ := valid.cycles c hc
  obtain ⟨hcycle', hvisited'⟩ := valid.cycles d hd
  -- the visits repeat no node, so what was visited of the same nodes is the same
  have same : c.dropLast.reverse = d.dropLast.reverse :=
    (valid.once.perm_iff_eq_of_sublist hvisited hvisited').1 hrot.reverse.perm
  rw [hcycle.eq_of_dropLast hcycle' (List.reverse_injective same)]

/-! ## Written cycles -/

/-- **No arrow stands in the identifier.** -/
def Arrowless (id : String) : Prop :=
  Text.occurs "->".toList id.toList = false

instance (id : String) : Decidable (Arrowless id) :=
  inferInstanceAs (Decidable (_ = false))

/-- What stands between the nodes of a written cycle. -/
def Cycle.separator : List Char :=
  " -> ".toList

/-- No separator begins within such an identifier. -/
theorem Arrowless.solid {id : String} (h : Arrowless id) :
    Text.Solid Cycle.separator id.toList := by
  have noArrow : ¬ ['-', '>'] <:+: id.toList := fun hi => by
    have : Arrowless id = False := by simp [Arrowless, Text.occurs_iff.2 hi]
    exact this ▸ h
  intro y hy hne
  -- in front of a separator one or two characters are too few to begin another one
  match y, hy, hne with
  | [c], _, _ => simp [Cycle.separator]
  | [c, d], _, _ => simp [Cycle.separator]
  | c :: d :: e :: y, hy, _ =>
    have noMatch : ∀ l, ¬ Cycle.separator <+: c :: d :: e :: l := by
      intro l hl
      obtain ⟨-, rfl, rfl, -⟩ : ' ' = c ∧ '-' = d ∧ '>' = e ∧ [' '] <+: l := by
        simpa [Cycle.separator] using hl
      exact noArrow (.trans ⟨[c], y, rfl⟩ hy.isInfix)
    exact ⟨noMatch y, fun rest => noMatch _⟩

/-- **A written path reads back as one list of identifiers.** -/
theorem pieces_render {c : Cycle} (hne : c ≠ []) (h : ∀ id ∈ c, Arrowless id) :
    Text.pieces Cycle.separator (Cycle.render c).toList = c.map String.toList := by
  rw [Cycle.render, String.toList_intercalate]
  refine Text.pieces_intercalate (by simp [Cycle.separator]) (by simpa using hne) ?_
  intro x hx
  obtain ⟨id, hid, rfl⟩ := List.mem_map.1 hx
  exact (h id hid).solid

/-- Paths that are written alike are equal. -/
theorem eq_of_render_eq {c d : Cycle} (hc : c ≠ []) (hd : d ≠ [])
    (harrow : ∀ id ∈ c, Arrowless id) (harrow' : ∀ id ∈ d, Arrowless id)
    (heq : Cycle.render c = Cycle.render d) : c = d := by
  have hpieces := congrArg (fun s => Text.pieces Cycle.separator s.toList) heq
  simp only [pieces_render hc harrow, pieces_render hd harrow'] at hpieces
  exact List.map_injective_iff.2 (fun _ _ => String.toList_inj.1) hpieces

theorem ClosedWalk.ne_nil (hw : g.ClosedWalk w) : w ≠ [] := by
  obtain ⟨a, b, l, rfl, -⟩ := hw.exists_eq
  exact List.cons_ne_nil _ _

theorem ClosedWalk.arrowless (hw : g.ClosedWalk w) (harrow : ∀ n ∈ g.nodes, Arrowless n.id) :
    ∀ id ∈ w, Arrowless id := by
  intro id hid
  obtain ⟨n, hn, rfl⟩ := List.mem_map.1 (hw.mem_ids hid)
  exact harrow n hn

/-! ## What the reports say of a graph -/

/-- **These cycles describe the graph**: they are cycles of it, they are
apart, and every closed walk closes one of them. -/
structure Describes (g : Graph) (cs : List Cycle) : Prop where
  /-- Each follows the edges, ends where it began and repeats no other
  node. -/
  sound : ∀ c ∈ cs, g.IsCycle c
  /-- No two are written alike or are rotations of each other. -/
  apart : cs.Pairwise fun c d =>
    Cycle.render c ≠ Cycle.render d ∧ ¬ c.dropLast.IsRotated d.dropLast
  /-- A closed walk takes the edge that one of them ends with. -/
  complete : ∀ w, g.ClosedWalk w → ∃ c ∈ cs, ∃ a b, [a, b] <:+ c ∧ [a, b] <:+: w
  /-- The line it is written as belongs to no other path. -/
  readsBack : ∀ c ∈ cs, ∀ w ≠ [], (∀ id ∈ w, Arrowless id) →
    Cycle.render w = Cycle.render c → w = c
  /-- There are none exactly if no node leads back to itself. -/
  acyclic : cs = [] ↔ g.Acyclic

/-- In a graph without arrows a report is the cycle it is written as. -/
theorem mem_cycles_of_closes (harrow : ∀ n ∈ g.nodes, Arrowless n.id)
    (hc : g.search.Closes g a b) : ∃ c ∈ g.cycles, [a, b] <:+ c := by
  obtain ⟨d, hd, hab, c, hcs, heq⟩ := hc
  have hcycle := ((search_reaches g).valid.cycles c hcs).1
  obtain rfl : c = d := eq_of_render_eq hcycle.ne_nil hd.ne_nil (hcycle.arrowless harrow)
    (hd.arrowless harrow) heq
  exact ⟨c, hcs, hab⟩

/-- The order of nodes and edges does not matter to where they lead. -/
theorem leads_of_perm (hn : h.nodes.Perm g.nodes) (he : h.edges.Perm g.edges) :
    h.Leads = g.Leads := by
  funext a b
  simp only [Leads, hn.mem_iff, he.mem_iff]

/-- **Cycle detection is sound and complete**, and whether it reports
anything does not depend on the order of nodes and edges. -/
theorem cycles_describe (g : Graph) (harrow : ∀ n ∈ g.nodes, Arrowless n.id) :
    g.Describes g.cycles ∧
      ∀ h : Graph, h.nodes.Perm g.nodes → h.edges.Perm g.edges →
        (h.cycles = [] ↔ g.cycles = []) := by
  have valid := (search_reaches g).valid
  refine ⟨⟨fun c hc => (valid.cycles c hc).1, ?_, ?_, ?_, cycles_eq_nil_iff⟩, ?_⟩
  · exact valid.apart.and (pairwise_not_isRotated g)
  · intro w hw
    obtain ⟨a, b, hab, hc⟩ := exists_closes hw
    obtain ⟨c, hc, hsuffix⟩ := mem_cycles_of_closes harrow hc
    exact ⟨c, hc, a, b, hsuffix, hab⟩
  · intro c hc w hne hw heq
    have hcycle := (valid.cycles c hc).1
    exact eq_of_render_eq hne hcycle.ne_nil hw (hcycle.arrowless harrow) heq
  · intro h hn he
    rw [cycles_eq_nil_iff, cycles_eq_nil_iff, Acyclic, Acyclic, leads_of_perm hn he]

/-- Two nodes that lead to each other, twice over, a node that leads to
itself and to nowhere, and a node that only leads into them. -/
def knot : Graph where
  nodes := ["a", "b", "c", "d"].map fun id =>
    { workflowId := default, id, kind := "MessageNode" }
  edges := [("d", "b"), ("a", "b"), ("b", "a"), ("a", "b"), ("c", "c"), ("c", "nowhere")].map
    fun e => { workflowId := default, id := default, source := e.1, target := e.2 }

/-- **A graph with two cycles**: one over two nodes, and a loop. -/
theorem knot_described :
    (∀ n ∈ knot.nodes, Arrowless n.id) ∧
      knot.cycles = [["a", "b", "a"], ["c", "c"]] ∧
      knot.Describes knot.cycles := by
  have harrow : ∀ n ∈ knot.nodes, Arrowless n.id := by decide +kernel
  exact ⟨harrow, by decide +kernel, (cycles_describe knot harrow).1⟩

end Graph

end Flowchart
