import Flowchart.Proofs.Engine.Events
import Flowchart.Proofs.Source.RoundTrip

/-!
# Flows stand by their sources

The graph of a stored flow is the one that its source makes, whoever
makes it, but for the identifiers of the edges (`Graph.remade_ofText?`).
Its source is the one that was supplied last, by the operation that made
the flow or by one that changed it, since the flow was last deleted
(`graphs_follow_sources`). So what is run, what is validated and what is
published are one graph (`OneGraph`).
-/

namespace Flowchart

namespace Graph

variable {ids ids' : Nat → Uuid} {workflowId : Uuid} {text : String} {g g' : Graph}

/-- **A graph belongs to a flow** with all its nodes and edges. -/
structure BelongsTo (g : Graph) (workflowId : Uuid) : Prop where
  /-- The nodes name the flow. -/
  nodes : ∀ n ∈ g.nodes, n.workflowId = workflowId
  /-- The edges name the flow. -/
  edges : ∀ x ∈ g.edges, x.workflowId = workflowId

/-- **What is made of a source for a flow belongs to it.** -/
theorem belongsTo_ofText? (h : ofText? ids workflowId text = .ok g) : g.BelongsTo workflowId := by
  obtain ⟨s, -, rfl⟩ := map_eq_ok_iff.1 h
  refine ⟨fun n hn => ?_, fun x hx => ?_⟩
  · obtain ⟨p, -, rfl⟩ := List.mem_map.1 hn
    rfl
  · obtain ⟨i, hi, rfl⟩ := List.mem_mapIdx.1 hx
    rfl

/-- **A source makes one graph**, the identifiers of its edges apart. -/
theorem remade_ofText? (h : ofText? ids workflowId text = .ok g) (ids' : Nat → Uuid) :
    ∃ g', ofText? ids' workflowId text = .ok g' ∧ g'.nodes = g.nodes ∧
      List.Forall₂ Edge.Renamed g'.edges g.edges := by
  obtain ⟨s, hs, rfl⟩ := map_eq_ok_iff.1 h
  refine ⟨_, map_eq_ok_iff.2 ⟨s, hs, rfl⟩, rfl, ?_⟩
  rw [ofSource, ofSource]
  refine List.forall₂_iff_get.2 ⟨by simp, fun i hi hi' => ?_⟩
  simp [Edge.Renamed, Edge.ofConnection]

end Graph

namespace Engine

open Workflow (Store)

variable {e e₀ : Engine} {w : Workflow} {op : Operation} {c : Call} {g : Graph} {s : Session}

/-! ## The sources that are supplied -/

/-- What an operation says of the source of its flow, if anything: the new
source, or that there is none any more. -/
def Operation.source? : Operation → Option (Option String)
  | .create draft _ _ => some (some draft.source)
  | .update _ change _ _ => change.source.map some
  | .delete _ _ _ => some none
  | .publish _ _ _ _ _ | .activate _ _ _ _ => none

/-- What an event says of the source of a flow. An operation that fails
says nothing. -/
def supply? (e : Engine) : Event → Option (Uuid × Option String)
  | .operation op => if e.does op then op.source?.map fun source => (e.subject op, source) else none
  | .call _ => none

/-- What some events say of the sources of flows, in order. -/
def supplies (e : Engine) : List Event → List (Uuid × Option String)
  | [] => []
  | event :: events => (e.supply? event).toList ++ (e.handle event).supplies events

theorem supplies_concat (e : Engine) (events : List Event) (event : Event) :
    e.supplies (events ++ [event]) =
      e.supplies events ++ ((e.handleAll events).supply? event).toList := by
  induction events generalizing e with
  | nil => rw [List.nil_append, supplies, supplies, supplies, List.append_nil]; rfl
  | cons first events ih =>
    rw [List.cons_append, supplies, supplies, ih, List.append_assoc]
    rfl

/-- **The source that was supplied last for a flow**, if that was not its
deletion. -/
def latest? (id : Uuid) (supplies : List (Uuid × Option String)) : Option String :=
  (supplies.filter (·.1 == id)).getLast?.bind (·.2)

/-- The source of a flow with an identifier, after one more has perhaps
been supplied. -/
def afterSupply (id : Uuid) (source : Option String) :
    Option (Uuid × Option String) → Option String
  | some supply => if supply.1 = id then supply.2 else source
  | none => source

theorem latest?_append_toList (id : Uuid) (supplies : List (Uuid × Option String))
    (supply : Option (Uuid × Option String)) :
    latest? id (supplies ++ supply.toList) = afterSupply id (latest? id supplies) supply := by
  cases supply with
  | none => rw [Option.toList_none, List.append_nil, afterSupply]
  | some supply =>
    rw [Option.toList_some, latest?, getLast?_filter_concat, afterSupply]
    by_cases h : supply.1 = id
    · rw [if_pos (beq_iff_eq.2 h), if_pos h, Option.bind_some]
    · rw [if_neg (mt beq_iff_eq.1 h), if_neg h, latest?]

/-! ## One operation -/

/-- **The source of a flow after an operation** is the one that the
operation supplies for it, else the one before. -/
theorem source_perform (hopen : e.flows.Open) (hsound : e.flows.Sound) (op : Operation)
    (id : Uuid) : ((e.perform op).flows.find? id).map (·.source) =
      afterSupply id ((e.flows.find? id).map (·.source)) (e.supply? (.operation op)) := by
  obtain ⟨hfails, hsame⟩ | ⟨hdoes, heffect⟩ := (performs hopen hsound op).records
  · rw [supply?, hfails, Store.find?, hsame.flows]
    rfl
  rw [supply?, if_pos hdoes]
  generalize (e.perform op).flows = st' at heffect
  cases heffect with
  | @created draft user clock w answer new unpublished source compiled flows versions =>
    rw [Store.find?_created flows new, subject_of_create answer]
    by_cases hid : id = e.subject (.create draft user clock)
    · rw [if_pos hid, Option.map_some, source]
      exact (if_pos hid.symm).symm
    · rw [if_neg hid]
      exact (if_neg (Ne.symm hid)).symm
  | @updated id' change user clock w w' answer found hid revises flows versions =>
    subst hid
    have hplaced := revises.id ▸ Store.mem_ids found
    rw [Store.find?_placed flows hplaced, revises.id]
    by_cases hid : id = w.id
    · subst hid
      rw [if_pos rfl, Option.map_some, revises.source, hsound.tidy.find?_id found, Option.map_some]
      cases hsource : change.source with
      | none => simp [Operation.source?, hsource, afterSupply]
      | some text => simp [Operation.source?, hsource, afterSupply, subject]
    · rw [if_neg hid]
      cases hsource : change.source with
      | none => simp [Operation.source?, hsource, afterSupply]
      | some text => simp [Operation.source?, hsource, afterSupply, subject, Ne.symm hid]
  | @deleted id' user clock flows versions =>
    rw [Store.find?_removed flows]
    by_cases hid : id = id'
    · rw [if_pos hid]
      exact (if_pos hid.symm).symm
    · rw [if_neg hid]
      exact (if_neg (Ne.symm hid)).symm
  | @published id' number notes user clock w v answer found hid valid hv active snapshot new
      flows versions =>
    have hplaced : (publishedAt w clock).id ∈ e.flows.ids := Store.mem_ids (w := w) found
    rw [Store.find?_placed flows hplaced]
    by_cases hid : id = (publishedAt w clock).id
    · rw [if_pos hid, Option.map_some, hid, publishedAt, hsound.tidy.find?_id found]
      rfl
    · rw [if_neg hid]
      rfl
  | activated known flows versions =>
    rw [Store.find?, flows]
    rfl

/-! ## What a flow is run, validated and published as -/

/-- **One graph is run, validated and published.** -/
structure OneGraph (e : Engine) (w : Workflow) : Prop where
  /-- A run goes through the graph of the flow. -/
  run : ∀ c e₀ g s, e.Runs c e₀ g s → s.workflowId = w.id → g = w.graph
  /-- A validation judges it. -/
  validation : e.validate w.id = .ok w.graph.validate
  /-- A publication keeps the source that makes it, if it has no errors. -/
  publication : ∀ number notes user clock v,
    (e.publish w.id number notes user clock).1 = .ok v →
      w.graph.validate.isValid = true ∧ v.snapshot = w.source

theorem oneGraph_of_find? (hopen : e.flows.Open) (hsound : e.flows.Sound)
    (hw : e.flows.find? w.id = some w) : e.OneGraph w := by
  refine ⟨fun c e₀ g s hruns hid => ?_, ?_, fun number notes user clock v hv => ?_⟩
  · have hgraph := hruns.graph_eq
    rw [hid, hw] at hgraph
    exact (Option.some.inj hgraph).symm
  · rw [validate, require, hw]
    rfl
  · obtain ⟨err, e', hout, -⟩ | ⟨u, e', hout, hmem, hid, hvalid, -⟩ :=
      publish_cases hopen hsound w.id number notes user clock
    · rw [hout] at hv
      cases hv
    · rw [hout] at hv
      obtain rfl := Except.ok.inj hv
      obtain rfl : u = w :=
        hsound.tidy.eq_of_id hmem (Store.mem_of_find?_eq_some hw).1 hid
      exact ⟨hvalid, rfl⟩

/-! ## The main statement -/

/-- **Graphs never drift from their sources.** From no flows on, whatever
has happened: the source of a flow is the one that was supplied last for
it, and there is a flow just if there is such a source. The graph of a
flow belongs to it and is the one that its source makes, whichever
identifiers the edges are given. What is run, validated and published is
this graph. -/
theorem graphs_follow_sources (start : Engine) (hempty : start.flows = {})
    (events : List Event) :
    (∀ id, ((start.handleAll events).flows.find? id).map (·.source) =
      latest? id (start.supplies events)) ∧
    ∀ w ∈ (start.handleAll events).flows.flows,
      (start.handleAll events).flows.find? w.id = some w ∧
      w.graph.BelongsTo w.id ∧
      (∀ ids, ∃ g, Graph.ofText? ids w.id w.source = .ok g ∧ g.nodes = w.graph.nodes ∧
        List.Forall₂ Graph.Edge.Renamed g.edges w.graph.edges) ∧
      (start.handleAll events).OneGraph w := by
  refine ⟨fun id => ?_, fun w hw => ?_⟩
  · induction events using List.reverseRecOn with
    | nil =>
      rw [handleAll_nil, hempty]
      rfl
    | append_singleton events event ih =>
      rw [supplies_concat, latest?_append_toList, ← ih, handleAll_concat]
      cases event with
      | operation op =>
        obtain ⟨hopen, hsound, -⟩ := wellKept_handleAll hempty events
        exact source_perform hopen hsound op id
      | call c => rw [handle, (kept_execute _ c).flows, supply?, afterSupply]
  · obtain ⟨hopen, hsound, hfaithful⟩ := wellKept_handleAll hempty events
    obtain ⟨ids, hids⟩ := hfaithful.compiled w hw
    have hfound := hsound.tidy.find?_id hw
    exact ⟨hfound, Graph.belongsTo_ofText? hids, Graph.remade_ofText? hids,
      oneGraph_of_find? hopen hsound hfound⟩

/-- A flow is made, given a source that cannot be read, renamed and
published; then another one is made and deleted. -/
def touched (id other : Uuid) : List Event := [
  .operation (.create { id := some id, name := "", source := shortText } "" default),
  .operation (.update id { source := some "\x7b" } "" default),
  .operation (.update id { name := some "short" } "" default),
  .operation (.publish id "1" "" "" default),
  .operation (.create { id := some other, name := "", source := shortText } "" default),
  .operation (.delete other "" default)]

/-- **The flow that is left stands by the source that it was made of**,
and the deleted one has none. -/
theorem touched_graph_follows_source :
    let e := ({ ids := .random 0 } : Engine).handleAll (touched .nil (.random 7))
    (e.flows.find? .nil).map (·.source) = some shortText ∧
      (e.flows.find? (.random 7)).map (·.source) = none ∧
      ∀ w ∈ e.flows.flows, w.graph.BelongsTo w.id ∧ e.OneGraph w ∧
        ∃ g, Graph.ofText? (fun _ => .nil) w.id w.source = .ok g ∧ g.nodes = w.graph.nodes := by
  obtain ⟨hsource, hflows⟩ :=
    graphs_follow_sources { ids := .random 0 } rfl (touched .nil (.random 7))
  refine ⟨(hsource .nil).trans (by decide +kernel),
    (hsource (.random 7)).trans (by decide +kernel), fun w hw => ?_⟩
  obtain ⟨-, hbelongs, hcompiled, hone⟩ := hflows w hw
  obtain ⟨g, hg, hnodes, -⟩ := hcompiled fun _ => .nil
  exact ⟨hbelongs, hone, g, hg, hnodes⟩

end Engine

end Flowchart
