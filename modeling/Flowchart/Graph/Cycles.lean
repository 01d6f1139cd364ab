import Flowchart.Graph.Basic

/-!
# Cycles

A depth-first search from every node in turn, with one set of visited nodes for all of them. When it
comes back to a node of the path it is on, the part of the path from there is a cycle. A cycle is
found once for every edge that closes it, and is written as the nodes on it with arrows between.
-/

namespace Flowchart

namespace Graph

/-- A closed path: its nodes in order, the last one being the first one again. -/
abbrev Cycle := List String

/-- The written form of a cycle. -/
def Cycle.render (c : Cycle) : String :=
  " -> ".intercalate c

/-- Where a search stands. -/
structure Search where
  /-- The nodes it has been at. -/
  visited : List String := []
  /-- The cycles it has found, in order. -/
  cycles : List Cycle := []
deriving DecidableEq, Inhabited

namespace Search

/-- Keeps a cycle, unless one with the same written form is there. -/
def report (s : Search) (c : Cycle) : Search :=
  if s.cycles.any (fun d => Cycle.render d == Cycle.render c) then s
  else { s with cycles := s.cycles ++ [c] }

/-- Goes to a node from the end of a path, and on from there by its targets. Every node but the last
one of a path is a node of the graph and occurs once, so a fuel of one more than the number of nodes
is never used up. -/
def visit (targets : String → List String) :
    (fuel : Nat) → (path : List String) → (node : String) → Search → Search
  | 0, _, _, s => s
  | fuel + 1, path, node, s =>
    if node ∈ path then s.report (path.dropWhile (· ≠ node) ++ [node])
    else if node ∈ s.visited then s
    else
      (targets node).foldl (fun s next => visit targets fuel (path ++ [node]) next s)
        { s with visited := node :: s.visited }

end Search

/-- The targets of the edges that leave a node of the graph, in order. -/
def targets (g : Graph) (id : String) : List String :=
  if g.nodes.any (·.id == id) then (g.outgoing id).map (·.target) else []

/-- The search after all nodes. -/
def search (g : Graph) : Search :=
  g.nodes.foldl (fun s n => Search.visit g.targets (g.nodes.length + 1) [] n.id s) {}

/-- The cycles of a graph. -/
def cycles (g : Graph) : List Cycle :=
  g.search.cycles

end Graph

end Flowchart
