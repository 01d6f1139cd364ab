import Flowchart.Graph.Compile
import Flowchart.Proofs.Session.Timeless

/-!
# The same session elsewhere

A session bears an identifier, and it tells its flow, its user and when
it was started. The nodes and edges of its graph tell the flow too, and
every edge has an identifier of its own. A run reads none of these
(`runFrom_anonymous`), and no times either. So sessions that are alike in
all other respects stay so, in graphs that are the same but for names
(`Alike.run`): wherever a source is compiled and whenever a session is
run, what comes of it is the same.
-/

namespace Flowchart

namespace Graph

/-- The node without its flow. -/
def Node.anonymous (n : Node) : Node :=
  { n with workflowId := .nil }

/-- The edge without its flow and its identifier. -/
def Edge.anonymous (e : Edge) : Edge :=
  { e with workflowId := .nil, id := .nil }

/-- The graph without its flow and the identifiers of its edges. -/
def anonymous (g : Graph) : Graph where
  nodes := g.nodes.map Node.anonymous
  edges := g.edges.map Edge.anonymous

variable {g g' : Graph}

theorem node?_anonymous (g : Graph) (id : String) :
    g.anonymous.node? id = (g.node? id).map Node.anonymous :=
  List.find?_map ..

theorem start?_anonymous (g : Graph) : g.anonymous.start? = g.start?.map Node.anonymous := by
  have hfirst : g.anonymous.nodes.find? (·.isStart) =
      (g.nodes.find? (·.isStart)).map Node.anonymous := List.find?_map ..
  rw [start?, start?, hfirst, node?_anonymous]
  cases g.nodes.find? (·.isStart) <;> rfl

theorem wayOut?_anonymous (g : Graph) (id : String) (port : Option String) :
    g.anonymous.wayOut? id port = (g.wayOut? id port).map Edge.anonymous := by
  have houtgoing : g.anonymous.outgoing id = (g.outgoing id).map Edge.anonymous :=
    List.filter_map ..
  rw [wayOut?, wayOut?, houtgoing]
  exact List.find?_map ..

/-- The kinds of the nodes are the same. -/
theorem callFree_anonymous_iff : g.anonymous.CallFree ↔ g.CallFree :=
  List.forall_mem_map

/-- **Wherever a source is compiled**, it gives the same graph but for
names. -/
theorem anonymous_ofSource (ids ids' : Nat → Uuid) (workflowId workflowId' : Uuid) (s : Source) :
    (ofSource ids workflowId s).anonymous = (ofSource ids' workflowId' s).anonymous := by
  have hnodes : (ofSource ids workflowId s).anonymous.nodes =
      (ofSource ids' workflowId' s).anonymous.nodes := by
    simp only [anonymous, ofSource, List.map_map]
    rfl
  have hedges : (ofSource ids workflowId s).anonymous.edges =
      (ofSource ids' workflowId' s).anonymous.edges := by
    refine List.ext_getElem (by simp [anonymous, ofSource]) fun i hi hi' => ?_
    simp [anonymous, ofSource, Edge.ofConnection, Edge.anonymous]
  rw [anonymous, anonymous, Graph.mk.injEq]
  exact ⟨hnodes, hedges⟩

end Graph

namespace Session

/-- The session without its identifier, its flow, its user and its
start. -/
def anonymous (s : Session) : Session :=
  { s with id := "", workflowId := .nil, userId := "", createdAt := .epoch }

/-- The run with its session without names. -/
def Run.anonymous (r : Run) : Run :=
  { r with session := r.session.anonymous }

/-- The setting with its graph without names. -/
def Setting.anonymous (setting : Setting) : Setting :=
  { setting with graph := setting.graph.anonymous }

variable {setting : Setting} {s t : Session} {n m : Web.Network}

/-! ## Taking names out commutes with a run -/

/-- Where a session stands does not depend on names. -/
theorem arrive_anonymous (g : Graph) (s : Session) :
    arrive g.anonymous s.anonymous =
      match arrive g s with
      | .error e => .error (e.1.anonymous, e.2)
      | .ok node => .ok node.anonymous := by
  have hcurrent : s.anonymous.current = s.current := rfl
  unfold arrive
  rw [hcurrent, Graph.node?_anonymous]
  cases g.node? s.current with
  | none => rfl
  | some node =>
    have hend : node.anonymous.isEnd = node.isEnd := rfl
    simp only [Option.map_some, hend]
    cases node.isEnd <;> rfl

/-- Where a result leads does not depend on names. -/
theorem next?_anonymous (g : Graph) (node : Graph.Node) (r : Step.Result) :
    next? g.anonymous node.anonymous r = next? g node r := by
  have hid : node.anonymous.id = node.id := rfl
  unfold next?
  cases r.nextNode with
  | some id => rfl
  | none =>
    simp only
    rw [hid, Graph.wayOut?_anonymous, Option.map_map]
    rfl

/-- How a step is settled does not depend on names. -/
theorem settle_anonymous (g : Graph) (node : Graph.Node) (r : Step.Result) (s : Session) :
    settle g.anonymous node.anonymous r s.anonymous =
      ((settle g node r s).1.anonymous, (settle g node r s).2) := by
  have h := settled_settle g node r s
  generalize hout : settle g node r s = out at h
  cases h with
  | refused hs hi => simp only [settle, hs, hi]; rfl
  | failed hs hi => simp only [settle, hs, hi]; rfl
  | asked hs hi => simp only [settle, hs, hi]; rfl
  | finished hs hi hc => simp only [settle, hs, hi, hc]; rfl
  | deadEnd hs hi hc hn => simp only [settle, hs, hi, hc, next?_anonymous, hn]; rfl
  | moved id hs hi hc hn => simp only [settle, hs, hi, hc, next?_anonymous, hn]; rfl

/-- **A turn commutes with taking names out.** -/
theorem turn_anonymous (setting : Setting) (s : Session) (n : Web.Network) :
    turn setting.anonymous s.anonymous n =
      match turn setting s n with
      | .error run => .error run.anonymous
      | .ok (s, n) => .ok (s.anonymous, n) := by
  have ha' : arrive setting.anonymous.graph s.anonymous = _ := arrive_anonymous setting.graph s
  cases ha : arrive setting.graph s with
  | error e =>
    rw [ha] at ha'
    simp only [turn, ha, ha']
    rfl
  | ok node =>
    rw [ha] at ha'
    cases hp : prepare setting.registry node with
    | error reason =>
      have hp' : prepare setting.anonymous.registry node.anonymous = .error reason := hp
      simp only [turn, ha, hp, ha', hp']
      rfl
    | ok p =>
      have hp' : prepare setting.anonymous.registry node.anonymous = .ok p := hp
      -- both turns are visits to one node, and a step is made of no names but that of the node
      let v : Visit setting s := ⟨node, p.1, p.2, ha, hp⟩
      let w : Visit setting.anonymous s.anonymous := ⟨node.anonymous, p.1, p.2, ha', hp'⟩
      have hset : w.settled n = ((v.settled n).1.anonymous, (v.settled n).2) :=
        settle_anonymous setting.graph node (v.result n) (v.recorded n)
      have hnet : w.network n = v.network n := rfl
      rw [turn_of_visit v, turn_of_visit w, hset, hnet]
      rcases v.settled n with ⟨u, _ | o⟩ <;> rfl

/-- **A run commutes with taking names out.** -/
theorem runFrom_anonymous (setting : Setting) (budget left : Nat) (s : Session)
    (n : Web.Network) :
    runFrom setting.anonymous budget left s.anonymous n =
      (runFrom setting budget left s n).anonymous := by
  induction left generalizing s n with
  | zero =>
    have ha' : arrive setting.anonymous.graph s.anonymous = _ := arrive_anonymous setting.graph s
    cases ha : arrive setting.graph s with
    | error e =>
      rw [ha] at ha'
      rw [runFrom_of_arrive_error ha, runFrom_of_arrive_error ha']
      rfl
    | ok node =>
      rw [ha] at ha'
      rw [runFrom_zero ha, runFrom_zero ha']
      rfl
  | succ left ih =>
    rw [runFrom_succ, runFrom_succ, turn_anonymous]
    cases turn setting s n with
    | error run => rfl
    | ok p => exact ih p.1 p.2

/-! ## Sessions that are alike -/

/-- **Two sessions are alike**: but for names and times they are equal. -/
def Alike (s t : Session) : Prop :=
  s.anonymous.timeless = t.anonymous.timeless

namespace Alike

theorem refl (s : Session) : s.Alike s :=
  rfl

theorem symm (h : s.Alike t) : t.Alike s :=
  Eq.symm h

theorem trans {u : Session} (h : s.Alike t) (h' : t.Alike u) : s.Alike u :=
  Eq.trans h h'

/-- What is said of a session without names and times is the same. -/
theorem congr {α : Type} (h : s.Alike t) (f : Session → α) :
    f s.anonymous.timeless = f t.anonymous.timeless :=
  congrArg f h

theorem status (h : s.Alike t) : s.status = t.status :=
  h.congr Session.status

theorem state (h : s.Alike t) : s.state = t.state :=
  h.congr Session.state

theorem history (h : s.Alike t) :
    s.history.map Entry.timeless = t.history.map Entry.timeless :=
  h.congr Session.history

theorem withInput (h : s.Alike t) (input : Option Json) :
    Alike { s with input } { t with input } := by
  have hsame := h.congr fun u : Session => { u with input }
  exact hsame

/-- **Sessions that are alike stay so**, in graphs that are the same but
for names, and their runs end in the same way. -/
theorem run {g g' : Graph} {registry : Step.Registry} {c d : Clock} (h : s.Alike t)
    (hg : g.anonymous = g'.anonymous)
    (hsilent : Setting.Silent { graph := g, registry, clock := c })
    (hstamps : c.SameStamps d) (budget : Nat) (n m : Web.Network) :
    (s.run { graph := g, registry, clock := c } budget n).session.Alike
        (t.run { graph := g', registry, clock := d } budget m).session ∧
      (s.run { graph := g, registry, clock := c } budget n).outcome =
        (t.run { graph := g', registry, clock := d } budget m).outcome := by
  -- the outside makes no difference, so both may be run in front of the same one
  rw [run_of_silent hsilent budget s n m]
  have hleft : (s.run { graph := g, registry, clock := c } budget m).anonymous =
      s.anonymous.run { graph := g.anonymous, registry, clock := c } budget m :=
    (runFrom_anonymous { graph := g, registry, clock := c } budget budget _ m).symm
  have hright : (t.run { graph := g', registry, clock := d } budget m).anonymous =
      t.anonymous.run { graph := g.anonymous, registry, clock := d } budget m := by
    rw [hg]
    exact (runFrom_anonymous { graph := g', registry, clock := d } budget budget _ m).symm
  have hsame : (s.run { graph := g, registry, clock := c } budget m).anonymous.timeless =
      (t.run { graph := g', registry, clock := d } budget m).anonymous.timeless := by
    rw [hleft, hright]
    refine run_timeless_eq h budget m fun i _ _ => ?_
    rw [hstamps i]
    exact .refl registry _
  have hsession := congrArg Run.session hsame
  have houtcome := congrArg Run.outcome hsame
  exact ⟨hsession, houtcome⟩

end Alike

end Session

end Flowchart
