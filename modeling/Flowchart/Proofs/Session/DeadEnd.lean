import Flowchart.Proofs.Graph.Shape
import Flowchart.Proofs.Session.Branching
import Flowchart.Proofs.Session.Rest
import Flowchart.Proofs.Step.Plain

/-!
# Where a flow dead-ends

A flow dead-ends where a step has gone on and nothing leads on. A node
without edges is reported when its graph is validated. What is left are
choices: every other step leaves by the first edge of its node
(`eq_choice_of_nextPort`), but a choice names a port, and its branch may
have one that no edge leaves through (`only_choices_dead_end`).
-/

namespace Flowchart

open Step (Branch Choice.Takes)

namespace Graph

variable {g : Graph} {node : Node}

/-- **A node that validation does not report as a dead end** has an edge
that leaves it. -/
theorem exists_edge_of_validate
    (h : ∀ f ∈ g.validate.warnings, f.code ≠ .noOutgoingConnection) (hn : node ∈ g.nodes)
    (he : node.isEnd = false) : ∃ e ∈ g.edges, e.source = node.id := by
  by_contra hnone
  have hany : g.edges.any (·.source == node.id) = false := by simpa using hnone
  obtain ⟨f, hf, hcode⟩ : ∃ f ∈ g.deadEndWarnings, f.code = .noOutgoingConnection :=
    ⟨_, List.mem_map_of_mem (List.mem_filter.2 ⟨hn, by simp [he, hany]⟩), rfl⟩
  have hwarned : f ∈ g.warnings := by
    simp only [warnings, List.mem_append, hf, or_true, true_or]
  exact h f hwarned hcode

end Graph

namespace Session

/-- **A choice has left its flow without a way on**: it has taken one of
the branches that its node lists, which names no node, and whose port is
that of none of the edges of the node. -/
structure Taken.Stranded (g : Graph) (p : Taken) : Prop where
  /-- The node is a condition. -/
  kind : p.node.kind = "ConditionNode" ∨ p.node.kind = "condition"
  /-- The branch. -/
  branch : ∃ branches i b,
    Branch.readList? p.input.config "branches" Branch.decoder = .ok (some branches) ∧
    Choice.Takes p.input.state branches i b ∧ b.target = none ∧ b.port ≠ "" ∧
    ∀ e ∈ g.edges, e.source = p.node.id → e.sourcePort ≠ some b.port

variable {g : Graph} {clock : Clock} {p : Taken} {port : String}

/-- **Where a node has an edge and nothing leads on, a port is named** that
none of its edges has. -/
theorem exists_port_of_deadEnd {port? : Option String}
    (hedge : ∃ e ∈ g.edges, e.source = p.node.id)
    (h : ∀ e ∈ g.edges, ¬ (e.source = p.node.id ∧ e.Fits port?)) :
    ∃ port, port? = some port ∧ port ≠ "" ∧
      ∀ e ∈ g.edges, e.source = p.node.id → e.sourcePort ≠ some port := by
  obtain ⟨e, he, hsource⟩ := hedge
  cases port? with
  | none => exact absurd ⟨hsource, .inl rfl⟩ (h e he)
  | some port =>
    refine ⟨port, rfl, ?_, fun d hd hd' hport => h d hd ⟨hd', .inr (.inr hport)⟩⟩
    rintro rfl
    exact h e he ⟨hsource, .inr (.inl rfl)⟩

/-- A branch that is derived from a connection names a node. -/
theorem listed_of_target {c : NodeConfig} {branches : List Branch} {b : Branch}
    (h : Branch.ofConfig? c = .ok branches) (hb : b ∈ branches) (htarget : b.target = none) :
    Branch.readList? c "branches" Branch.decoder = .ok (some branches) := by
  obtain hlisted | ⟨cs, -, rfl⟩ := Branch.listed_or_derived h
  · exact hlisted
  · obtain ⟨k, -, rfl⟩ := List.mem_map.1 hb
    cases htarget

/-- **A step that names a port and no node is a choice**, and that is the
port of the branch that it has taken. -/
theorem Taken.Genuine.choice_of_nextPort (h : p.Genuine ⟨g, .builtIn, clock⟩)
    (hport : p.result.nextPort = some port) (hnode : p.result.nextNode = none) :
    (p.node.kind = "ConditionNode" ∨ p.node.kind = "condition") ∧ ∃ branches i b,
      Branch.readList? p.input.config "branches" Branch.decoder = .ok (some branches) ∧
      Choice.Takes p.input.state branches i b ∧ b.target = none ∧ b.port = port := by
  obtain ⟨x, hx, hmade⟩ := h.made
  have hresult : (x.execute p.input p.before).1 = p.result := congrArg Prod.fst hmade
  obtain rfl := Step.eq_choice_of_nextPort hx (hresult ▸ hport)
  refine ⟨Step.resolve?_builtIn_eq_choice_iff.1 hx, ?_⟩
  obtain ⟨branches, i, b, hbranches, htakes⟩ | ⟨reason, hfailed⟩ :=
    Step.Choice.takes_or_failed p.input p.before
  · have hleaves := Step.Choice.leavesBy_of_takes (n := p.before) hbranches htakes
    rw [hresult] at hleaves
    have htarget : b.target = none := hleaves.target.symm.trans hnode
    have hlisted := listed_of_target hbranches (List.mem_of_getElem? htakes.at_place) htarget
    exact ⟨branches, i, b, hlisted, htakes, htarget,
      Option.some.inj (hleaves.port.symm.trans hport)⟩
  · rw [← hresult, hfailed] at hport
    cases hport

/-- **Only choices dead-end.** Let no node of a graph be reported as a dead
end. Whatever session is run in it by the built-in executors, with
whatever answer, state, budget and outside: if the run ends because
nothing leads on, then its last step, where the session still stands and
which the history ends with, is a choice that has left its flow without a
way on. -/
theorem only_choices_dead_end
    (h : ∀ f ∈ g.validate.warnings, f.code ≠ .noOutgoingConnection) (clock : Clock)
    (budget : Nat) (s : Session) (n : Web.Network) :
    let setting : Setting := { graph := g, registry := .builtIn, clock }
    let r := s.run setting budget n
    r.outcome = .completed deadEndMessage →
      ∃ p ∈ (s.steps setting budget n).getLast?, p.Genuine setting ∧
        r.session.current = p.node.id ∧
        r.session.history.getLast? = some (p.entry clock) ∧ p.Stranded g := by
  intro setting r ho
  have course : Course setting budget { s with status := .running } n
    (s.steps setting budget n) r := course_run setting budget s n
  obtain ⟨p, hp, hends, hcurrent⟩ | ⟨hhalts, -⟩ := course.end_cases
  · have hgenuine := course.genuine p (List.mem_of_getLast? hp)
    obtain ⟨x, hx, hmade⟩ := hgenuine.made
    have hresult : (x.execute p.input p.before).1 = p.result := congrArg Prod.fst hmade
    have hlast : r.session.history.getLast? = some (p.entry clock) := by
      rw [course.history, List.getLast?_append, List.getLast?_map, hp]
      rfl
    refine ⟨p, hp, hgenuine, hcurrent, hlast, ?_⟩
    generalize r.outcome = o at ho hends
    cases hends with
    | paused => cases ho
    | failed => cases ho
    | finished hs hi hc =>
      cases hc.symm.trans (hresult ▸ Step.isComplete_of_resolve? hx p.input p.before)
    | deadEnd hgo hnode hedges =>
      have hedge := Graph.exists_edge_of_validate h (List.mem_of_find?_eq_some hgenuine.found)
        hgenuine.notEnd
      obtain ⟨port, hport, hne, hports⟩ := exists_port_of_deadEnd hedge hedges
      obtain ⟨hkind, branches, i, b, hlisted, htakes, htarget, rfl⟩ :=
        hgenuine.choice_of_nextPort hport hnode
      exact ⟨hkind, branches, i, b, hlisted, htakes, htarget, hne, hports⟩
  · rw [ho] at hhalts
    have hmessage : deadEndMessage ≠ completedMessage := by decide
    generalize deadEndMessage = message at hhalts hmessage
    cases hhalts with
    | arrived => exact absurd rfl hmessage

/-! ## A branch without an edge -/

/-- A choice whose one branch has another port than its one edge. -/
def strandingText : String :=
  "\x7b\"s\":\x7b\"type\":\"Start\",\"to\":[\x7b\"id\":\"c\"\x7d]\x7d," ++
  "\"c\":\x7b\"type\":\"condition\"," ++
  "\"branches\":[\x7b\"condition\":\"go\",\"port\":\"p\"\x7d]," ++
  "\"to\":[\x7b\"id\":\"e\",\"sourcePort\":\"q\"\x7d]\x7d," ++
  "\"e\":\x7b\"type\":\"End\"\x7d\x7d"

/-- The graph of that flow. -/
def strandingGraph : Graph :=
  .ofSource (fun _ => .nil) .nil {
    nodes := [
      ("s", { detail := .custom "Start", common := { connections := [{ target := "c" }] } }),
      ("c", {
        detail := .condition
        common := {
          connections := [{ target := "e", sourcePort := some "q" }]
          extra := [("branches", .array [
            .object [("condition", .string "go"), ("port", .string "p")]])] } }),
      ("e", { detail := .custom "End" })] }

/-- A session of that flow whose condition holds. -/
def strandingSession : Session :=
  start "stranding" .nil "" "s" (.ofEntries [("go", .bool true)]) .epoch

/-- **The flow dead-ends at the choice**, although no node of its graph is
reported as a dead end. -/
theorem stranding_dead_ends :
    Graph.ofText? (fun _ => .nil) .nil strandingText = .ok strandingGraph ∧
    (∀ f ∈ strandingGraph.validate.warnings, f.code ≠ .noOutgoingConnection) ∧
    let setting : Setting := { graph := strandingGraph, registry := .builtIn, clock := default }
    (strandingSession.run setting 9 {}).outcome = .completed deadEndMessage ∧
      ∃ p ∈ (strandingSession.steps setting 9 {}).getLast?, p.Stranded strandingGraph := by
  have hwarn : ∀ f ∈ strandingGraph.validate.warnings, f.code ≠ .noOutgoingConnection := by
    decide +kernel
  have ho : (strandingSession.run ⟨strandingGraph, .builtIn, default⟩ 9 {}).outcome =
      .completed deadEndMessage := by
    decide +kernel
  obtain ⟨p, hp, -, -, -, hstranded⟩ := only_choices_dead_end hwarn default 9 strandingSession {} ho
  exact ⟨by decide +kernel, hwarn, ho, p, hp, hstranded⟩

end Session

end Flowchart
