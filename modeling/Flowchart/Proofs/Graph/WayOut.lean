import Flowchart.Graph.Basic

/-!
# Ways out of a node

An edge leaves through a port if it has that port, and every edge leaves
through none and through the empty one (`Edge.Fits`). The way out of a
node is the first of its edges that fits (`wayOut?_eq_some_iff`,
`wayOut?_eq_some_iff_outgoing`).
-/

namespace Flowchart

namespace Graph

variable {g : Graph} {id : String} {port : Option String} {e : Edge}

/-- The edge may be taken through a port. None and the empty one stand for
every port. -/
def Edge.Fits (e : Edge) (port : Option String) : Prop :=
  port = none ∨ port = some "" ∨ e.sourcePort = port

/-- The edge is the first one, in their order, that leaves a node through
a port. -/
def FirstOut (g : Graph) (id : String) (port : Option String) (e : Edge) : Prop :=
  ∃ before after, g.edges = before ++ e :: after ∧ (e.source = id ∧ e.Fits port) ∧
    ∀ d ∈ before, ¬ (d.source = id ∧ d.Fits port)

theorem Edge.fits_iff : e.Fits port ↔ e.leavesThrough port = true := by
  cases port with
  | none => simp [Fits, leavesThrough]
  | some port => simp [Fits, leavesThrough]

/-- The way out is looked for among all the edges. -/
theorem wayOut?_eq_find? :
    g.wayOut? id port = g.edges.find? fun e => e.source == id && e.leavesThrough port := by
  simp only [wayOut?, outgoing, List.find?_filter, Bool.decide_eq_true, Bool.decide_and]

theorem leaves_iff :
    (e.source == id && e.leavesThrough port) = true ↔ e.source = id ∧ e.Fits port := by
  rw [Bool.and_eq_true, beq_iff_eq, Edge.fits_iff]

/-- **The way out is the first edge that fits.** -/
theorem wayOut?_eq_some_iff : g.wayOut? id port = some e ↔ g.FirstOut id port e := by
  rw [wayOut?_eq_find?, List.find?_eq_some_iff_append, leaves_iff]
  simp only [Bool.not_eq_true', ← Bool.not_eq_true, leaves_iff]
  constructor
  · rintro ⟨he, before, after, hedges, hbefore⟩
    exact ⟨before, after, hedges, he, hbefore⟩
  · rintro ⟨before, after, hedges, he, hbefore⟩
    exact ⟨he, before, after, hedges, hbefore⟩

/-- The way out is the first edge of the node that fits. -/
theorem wayOut?_eq_some_iff_outgoing :
    g.wayOut? id port = some e ↔
      ∃ before after, g.outgoing id = before ++ e :: after ∧ e.Fits port ∧
        ∀ d ∈ before, ¬ d.Fits port := by
  rw [wayOut?, List.find?_eq_some_iff_append, ← Edge.fits_iff]
  simp only [Bool.not_eq_true', ← Bool.not_eq_true, ← Edge.fits_iff]
  constructor
  · rintro ⟨he, before, after, hedges, hbefore⟩
    exact ⟨before, after, hedges, he, hbefore⟩
  · rintro ⟨before, after, hedges, he, hbefore⟩
    exact ⟨he, before, after, hedges, hbefore⟩

/-- Where no edge fits there is no way out. -/
theorem wayOut?_eq_none_iff :
    g.wayOut? id port = none ↔ ∀ e ∈ g.edges, ¬ (e.source = id ∧ e.Fits port) := by
  simp only [wayOut?_eq_find?, List.find?_eq_none, leaves_iff]

end Graph

end Flowchart
