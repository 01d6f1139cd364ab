import Flowchart.Proofs.CommandLine.Turns
import Flowchart.Proofs.Workflow.Compiled

/-!
# The first turn of a run

A run reads its settings, its source and the session to go on with
(`Plan.Reads`), and compiles the source once more for the engine that
hosts the flow (`Plan.exists_engine`). If nothing stops it before
(`opening_cases`), it starts a session (`Plan.firstTurn_of_start`) or
puts the one back that it has read (`Plan.firstTurn_of_resumed`). Either
way the first turn is sound (`sound_opening`).
-/

namespace Flowchart

namespace CommandLine

variable {o : Options} {path : String} {around : Surroundings} {p : Plan} {src : Source}
  {clock : Clock} {e : Engine} {g : Graph} {s : Session}

/-! ## Reading -/

/-- **What a run has read** when validation begins: the graph is the one
of the source. -/
structure Plan.Reads (o : Options) (path : String) (around : Surroundings) (p : Plan)
    (src : Source) : Prop where
  /-- The settings are those of the options. -/
  settings : settingsOf o around = .ok p.settings
  /-- The source is the text of the file. -/
  source : around.read path = .ok p.source
  /-- The session is the one of its file. -/
  resumed : resumedOf o around = .ok p.resumed
  /-- The text is read as the source. -/
  parsed : Source.ofText? p.source = .ok src
  /-- The flow is that of the session, or a new one. -/
  workflowId : p.workflowId = (p.resumed.map (·.workflowId)).getD around.ids.next
  /-- The graph is the one of the source. -/
  graph : ∃ ids, p.graph = .ofSource ids p.workflowId src

/-- **What is read is there**: the settings, the source and the session. -/
theorem Plan.exists_reads (h : Plan.read o path around = .ok p) :
    ∃ src, Plan.Reads o path around p src := by
  obtain ⟨settings, hsettings, h⟩ := bind_eq_ok_iff.1 h
  obtain ⟨source, hsource, h⟩ := bind_eq_ok_iff.1 h
  obtain ⟨resumed, hresumed, h⟩ := bind_eq_ok_iff.1 h
  obtain ⟨graph, hgraph, h⟩ := bind_eq_ok_iff.1 h
  obtain ⟨src, hsrc, hcompiled⟩ := map_eq_ok_iff.1 (mapError_eq_ok_iff.1 hgraph)
  obtain rfl := Except.ok.inj h
  exact ⟨src, mapError_eq_ok_iff.1 hsettings, mapError_eq_ok_iff.1 hsource, hresumed, hsrc, rfl,
    _, hcompiled.symm⟩

/-- **What is there is read.** -/
theorem Plan.exists_read {settings : Settings} {source : String} {resumed : Option Session}
    (hsettings : settingsOf o around = .ok settings) (hsource : around.read path = .ok source)
    (hresumed : resumedOf o around = .ok resumed) (hsrc : Source.ofText? source = .ok src) :
    ∃ p, Plan.read o path around = .ok p ∧ Plan.Reads o path around p src ∧
      p.settings = settings ∧ p.resumed = resumed := by
  let workflowId := (resumed.map (·.workflowId)).getD around.ids.next
  let ids := around.ids.skip 1
  let graph := Graph.ofSource ids.ahead workflowId src
  have hgraph : Graph.ofText? ids.ahead workflowId source = .ok graph :=
    map_eq_ok_iff.2 ⟨src, hsrc, rfl⟩
  refine ⟨{ settings, source, resumed, workflowId, graph, ids := ids.skip graph.edges.length },
    ?_, ⟨hsettings, hsource, hresumed, hsrc, rfl, _, rfl⟩, rfl, rfl⟩
  refine bind_eq_ok_iff.2 ⟨settings, mapError_eq_ok_iff.2 hsettings, ?_⟩
  refine bind_eq_ok_iff.2 ⟨source, mapError_eq_ok_iff.2 hsource, ?_⟩
  refine bind_eq_ok_iff.2 ⟨resumed, hresumed, ?_⟩
  exact bind_eq_ok_iff.2 ⟨graph, mapError_eq_ok_iff.2 hgraph, rfl⟩

/-- **A new engine hosts the flow**, and keeps no session yet. -/
theorem Plan.exists_engine (hsrc : Source.ofText? p.source = .ok src) (name : String)
    (network : Web.Network) (clock : Clock) :
    ∃ e ids, p.engine name network clock = .ok e ∧
      Hosts e p.workflowId (.ofSource ids p.workflowId src) ∧ e.sessions = {} ∧
      e.settings = p.settings := by
  let ids := p.ids.ahead
  have hgraph : Graph.ofText? ids p.workflowId p.source = .ok (.ofSource ids p.workflowId src) :=
    map_eq_ok_iff.2 ⟨src, hsrc, rfl⟩
  have hengine : ∃ e w, p.engine name network clock = .ok e ∧
      e.flows.find? p.workflowId = some w ∧ w.graph = .ofSource ids p.workflowId src ∧
      e.registry = .builtIn ∧ e.sessions = {} ∧ e.settings = p.settings := by
    simp only [engine, Engine.create, Option.getD_some, Option.isNone_some, Bool.false_eq_true,
      if_false]
    have hids : p.ids.ahead = ids := rfl
    rw [hids, hgraph]
    let w : Workflow := {
      id := p.workflowId, name, source := p.source
      graph := .ofSource ids p.workflowId src, createdBy := p.settings.defaultUser
      createdAt := clock.now, updatedAt := clock.now }
    refine ⟨_, w, rfl, ?_, rfl, rfl, rfl, rfl⟩
    simp [Engine.log, Workflow.Store.find?, w]
  obtain ⟨e, w, he, hw, hwg, hregistry, hsessions, hsettings⟩ := hengine
  refine ⟨e, ids, he, ⟨⟨w, hw, hwg⟩, hregistry, ?_⟩, hsessions, hsettings⟩
  rw [hsessions]
  exact fun k => rfl

/-! ## Starting or going on -/

/-- The call that starts a session. -/
def Plan.startCall (p : Plan) (state : StateMap) (clock : Clock) : Engine.Call where
  request := { workflowId := p.workflowId, initialState := some state }
  clock

/-- The session that is started at a node. -/
def Plan.started (p : Plan) (e : Engine) (node : Graph.Node) (state : StateMap) (clock : Clock) :
    Session :=
  e.opened e.ids.next.toText node (p.startCall state clock)

/-- **A run that starts anew** fails without a start node, or else runs a
session from there. -/
theorem Plan.firstTurn_of_start (hp : p.resumed = none) (hhosts : Hosts e p.workflowId g)
    (state : StateMap) (clock : Clock) :
    p.firstTurn e state clock =
      match g.start? with
      | none => {
        lines := [.failed Engine.Rejection.noStartNode.message]
        engine := e
        standing := .ended false }
      | some node => Turn.served e.draw g (p.started e node state clock)
        (p.startCall state clock) 0 := by
  obtain ⟨w, hw, rfl⟩ := hhosts.flow
  have hfirst : p.firstTurn e state clock =
      .ofRequest e 0 (p.startCall state clock).request (p.startCall state clock).clock := by
    simp only [firstTurn, hp, startCall]
  rw [hfirst]
  cases hstart : w.graph.start? with
  | none =>
    have hexecute : e.execute (p.startCall state clock).request clock =
        (.rejected none Engine.Rejection.noStartNode.message, e) := by
      simp only [startCall, Engine.execute, Engine.startSession, Engine.graphOf, hw, hstart]
    rw [Turn.ofRequest]
    simp only [startCall] at hexecute ⊢
    rw [hexecute]
    rfl
  | some node =>
    have hopening : e.opening? (p.startCall state clock).request = some (w.graph, node) := by
      simp only [startCall, Engine.opening?, hw, Option.bind_some, hstart, Option.map_some]
    exact Turn.ofRequest_of_runs (.opens hopening) hhosts.gate rfl 0

/-- **A run that goes on** puts its session back and waits. -/
theorem Plan.firstTurn_of_resumed (hp : p.resumed = some s) (hsessions : e.sessions = {})
    (state : StateMap) (clock : Clock) :
    p.firstTurn e state clock = {
      lines := (s.prompt.map Line.prompt).toList
      engine := { e with sessions := (e.sessions.put s).2 }
      standing := .waits {
        workflowId := p.workflowId, sessionId := s.id, seen := s.history.length
        moved := false } } := by
  simp only [firstTurn, hp, hsessions]
  rfl

theorem Plan.stands_resumed (hkeyed : s.Keyed) (hflow : s.workflowId = p.workflowId)
    (hhosts : Hosts e p.workflowId g) (hsessions : e.sessions = {}) :
    Conversation.Stands {
        workflowId := p.workflowId, sessionId := s.id, seen := s.history.length, moved := false }
      { e with sessions := (e.sessions.put s).2 } g s := by
  have hput : e.sessions.put s = (.ok (), {
      sessions := SortedMap.empty.insert s.id s
      gate := { tried := 1 } }) := by
    rw [hsessions]
    rfl
  have hfind (id : String) :
      (e.sessions.put s).2.find? id = if s.id = id then some s else none := by
    rw [hput]
    exact SortedMap.find?_insert ..
  refine ⟨⟨hhosts.flow, hhosts.registry, ?_⟩, ?_, fun id t ht => ?_, rfl, hflow, rfl, hkeyed, nofun⟩
  · change (e.sessions.put s).2.Open
    rw [hput]
    exact fun _ => rfl
  · exact (hfind s.id).trans (if_pos rfl)
  · replace ht := (hfind id).symm.trans ht
    split at ht
    · next hid => exact hid.symm
    · cases ht

/-- A session that was loaded makes proper documents. -/
theorem keyed_of_resumedOf (h : resumedOf o around = .ok (some s)) : s.Keyed := by
  unfold resumedOf at h
  split at h
  · cases h
  · split at h
    · cases h
    · cases h
    · cases h
    · split at h
      · next text _ session hread =>
        obtain rfl := Option.some.inj (Except.ok.inj h)
        exact (Session.fits_of_ofSaved? hread).keyed
      · cases h

/-- The entries of the state make proper documents. -/
theorem keyed_stateOn {entries : List String} {state state' : StateMap} (hstate : state.Keyed)
    (h : stateOn state entries = .ok state') : state'.Keyed := by
  induction entries generalizing state with
  | nil =>
    obtain rfl := Except.ok.inj h
    exact hstate
  | cons entry entries ih =>
    rw [stateOn] at h
    split at h
    · next key value hentry =>
      obtain ⟨⟨name, raw⟩, -, hvalue⟩ := Option.map_eq_some_iff.1 hentry
      obtain ⟨rfl, rfl⟩ := Prod.mk.inj hvalue
      refine ih (hstate.insert ?_ _) h
      cases hread : Json.ofText? (String.ofList raw) with
      | none => trivial
      | some j => exact Json.keyed_of_ofText? hread
    · cases h

/-- A session that is started can be run. -/
theorem Plan.ready_started (hhosts : Hosts e p.workflowId g) (hsessions : e.sessions = {})
    {state : StateMap} (hstate : state.Keyed) (node : Graph.Node) (clock : Clock) :
    Ready e.draw g (p.started e node state clock) (p.startCall state clock) := by
  refine ⟨⟨hhosts.flow, hhosts.registry, hhosts.gate⟩, Session.keyed_start hstate .., ?_,
    fun id t ht => ?_⟩
  · rintro v ⟨⟩
  · have hnone : e.draw.sessions.find? id = none := by
      change e.sessions.find? id = none
      rw [hsessions]
      rfl
    cases hnone.symm.trans ht

/-- **The first turn of a conversation is sound.** -/
theorem Plan.Reads.sound_firstTurn (h : Plan.Reads o path around p src)
    (hhosts : Hosts e p.workflowId g) (hsessions : e.sessions = {}) {state : StateMap}
    (hstate : state.Keyed) (clock : Clock) : (p.firstTurn e state clock).Sound := by
  cases hp : p.resumed with
  | none =>
    rw [Plan.firstTurn_of_start hp hhosts]
    cases g.start? with
    | none => exact Turn.sound_of_ended rfl (by simp)
    | some node => exact (Plan.ready_started hhosts hsessions hstate node clock).sound 0
  | some s =>
    have hflow : s.workflowId = p.workflowId := by rw [h.workflowId, hp]; rfl
    have hkeyed : s.Keyed := keyed_of_resumedOf (hp ▸ h.resumed)
    rw [Plan.firstTurn_of_resumed hp hsessions]
    have hquiet : endings (s.prompt.map Line.prompt).toList = [] := by
      cases s.prompt <;> rfl
    refine ⟨awaiting_not_mem hquiet, ?_⟩
    rintro c ⟨⟩
    exact ⟨hquiet, g, s, Plan.stands_resumed hkeyed hflow hhosts hsessions⟩

/-- What validation found tells no ending. -/
theorem endings_findings (v : Graph.Validation) : endings (findings v) = [] := by
  rw [findings, endings_append, endings_map (fun _ => rfl), endings_map (fun _ => rfl),
    List.append_nil]

/-- Nor is it the message of a step. -/
theorem messages_findings (v : Graph.Validation) : messages (findings v) = [] := by
  simp [findings, messages, Line.message?]

/-- Whether a graph is valid does not depend on where its source is
compiled. -/
theorem Plan.Reads.isValid_eq (h : p.Reads o path around src) (ids : Nat → Uuid)
    (workflowId : Uuid) :
    p.graph.validate.isValid = (Graph.ofSource ids workflowId src).validate.isValid := by
  obtain ⟨ids', hgraph⟩ := h.graph
  simp only [hgraph, Graph.validate, Graph.errors_ofSource ids' ids p.workflowId workflowId]

/-! ## Opening -/

/-- **A run that is opened**: it has read what it needs, validation lets
it pass, and its first turn comes after the findings. -/
structure Opens (o : Options) (path : String) (around : Surroundings) (clock : Clock) (p : Plan)
    (src : Source) (e : Engine) (g : Graph) (state : StateMap) : Prop where
  /-- What was read. -/
  reads : p.Reads o path around src
  /-- The engine hosts the flow. -/
  hosts : Hosts e p.workflowId g
  /-- Its graph is the one of the source. -/
  compiled : ∃ ids, g = .ofSource ids p.workflowId src
  /-- No session is kept yet. -/
  sessions : e.sessions = {}
  /-- The settings are those that were read. -/
  settings : e.settings = p.settings
  /-- The entries of the state are understood. -/
  entries : stateOn .empty o.state = .ok state
  /-- The first turn. -/
  opening_eq : opening o path around clock =
    (p.firstTurn e state clock).after (findings p.graph.validate)

/-- The graph may be run: it has no errors, or they are ignored. -/
def Options.Admits (o : Options) (p : Plan) : Prop :=
  o.validateOnly = false ∧ (p.graph.validate.isValid || o.noValidate) = true

/-- **A graph that may be run is run.** -/
theorem exists_opens {state : StateMap} (hread : Plan.read o path around = .ok p)
    (hreads : p.Reads o path around src) (hadmits : o.Admits p)
    (hstate : stateOn .empty o.state = .ok state) (clock : Clock) :
    ∃ e g, Opens o path around clock p src e g state := by
  obtain ⟨e, ids, he, hhosts, hsessions, hsettings⟩ :=
    Plan.exists_engine hreads.parsed (nameOf path) around.network clock
  refine ⟨e, _, hreads, hhosts, ⟨ids, rfl⟩, hsessions, hsettings, hstate, ?_⟩
  have hproceed : p.proceed o path around.network p.graph.validate.isValid clock =
      p.firstTurn e state clock := by
    rw [Plan.proceed, if_neg (by rw [hadmits.1]; exact Bool.false_ne_true), if_pos hadmits.2,
      hstate, he]
  simp only [opening, hread, hproceed]

/-- **What is there is opened**, if the graph of the source may be run. -/
theorem exists_opens_of_there {settings : Settings} {text : String} {resumed : Option Session}
    {state : StateMap} {ids : Nat → Uuid} {workflowId : Uuid}
    (hsettings : settingsOf o around = .ok settings) (hsource : around.read path = .ok text)
    (hresumed : resumedOf o around = .ok resumed) (hsrc : Source.ofText? text = .ok src)
    (hstate : stateOn .empty o.state = .ok state) (hruns : o.validateOnly = false)
    (hvalid : ((Graph.ofSource ids workflowId src).validate.isValid || o.noValidate) = true)
    (clock : Clock) :
    ∃ p e g, Opens o path around clock p src e g state ∧ p.settings = settings ∧
      p.resumed = resumed := by
  obtain ⟨p, hread, hreads, hset, hp⟩ := Plan.exists_read hsettings hsource hresumed hsrc
  have hadmits : o.Admits p := ⟨hruns, by rw [hreads.isValid_eq ids workflowId, hvalid]⟩
  obtain ⟨e, g, hopens⟩ := exists_opens hread hreads hadmits hstate clock
  exact ⟨p, e, g, hopens, hset, hp⟩

/-- **A run that goes on with a session** waits for an answer to it, and
has told nothing of its steps yet. -/
theorem Opens.of_resumed {state : StateMap} (h : Opens o path around clock p src e g state)
    (hp : p.resumed = some s) :
    ∃ c, (opening o path around clock).standing = .waits c ∧ c.moved = false ∧
      c.Stands (opening o path around clock).engine g s ∧
      (opening o path around clock).engine.settings = p.settings ∧
      messages (opening o path around clock).lines = [] ∧
      endings (opening o path around clock).lines = [] := by
  have hflow : s.workflowId = p.workflowId := by rw [h.reads.workflowId, hp]; rfl
  have hkeyed : s.Keyed := keyed_of_resumedOf (hp ▸ h.reads.resumed)
  rw [h.opening_eq, Plan.firstTurn_of_resumed hp h.sessions]
  refine ⟨_, rfl, rfl, Plan.stands_resumed hkeyed hflow h.hosts h.sessions, h.settings, ?_, ?_⟩
  · rw [Turn.after, messages_append, messages_findings]
    cases s.prompt <;> rfl
  · rw [Turn.after, endings_append, endings_findings]
    cases s.prompt <;> rfl

/-- **The turn ends the run without a session**: none is kept, and no
message was told. -/
structure Turn.Barren (t : Turn) : Prop where
  /-- The run is over. -/
  ended : ∃ success, t.standing = .ended success
  /-- No message was told. -/
  silent : messages t.lines = []
  /-- No session is kept. -/
  sessions : t.engine.sessions = {}

/-- **A run is stopped at its opening, or it is opened.** -/
theorem opening_cases (o : Options) (path : String) (around : Surroundings) (clock : Clock) :
    ((opening o path around clock).Barren ∧ endings (opening o path around clock).lines = []) ∨
    ∃ p src e g state, Plan.read o path around = .ok p ∧ o.Admits p ∧
      Opens o path around clock p src e g state := by
  cases hread : Plan.read o path around with
  | error r =>
    rw [opening, hread]
    exact .inl ⟨⟨⟨false, rfl⟩, rfl, rfl⟩, rfl⟩
  | ok p =>
    obtain ⟨src, hreads⟩ := Plan.exists_reads hread
    -- what validation found comes before the turn in which the run stops
    have hstops {t : Turn}
        (hproceed : p.proceed o path around.network p.graph.validate.isValid clock = t)
        (ht : t.Barren) (hquiet : endings t.lines = []) :
        (opening o path around clock).Barren ∧
          endings (opening o path around clock).lines = [] := by
      simp only [opening, hread, hproceed]
      refine ⟨⟨ht.ended, ?_, ht.sessions⟩, ?_⟩
      · rw [Turn.after, messages_append, messages_findings, ht.silent, List.append_nil]
      · rw [Turn.after, endings_append, endings_findings, hquiet, List.append_nil]
    by_cases hadmits : o.Admits p
    · cases hstate : stateOn .empty o.state with
      | ok state =>
        obtain ⟨e, g, hopens⟩ := exists_opens hread hreads hadmits hstate clock
        exact .inr ⟨p, src, e, g, state, rfl, hadmits, hopens⟩
      | error r =>
        refine .inl (hstops (?_ : _ = Turn.refused p.emptyEngine r) ⟨⟨false, rfl⟩, rfl, rfl⟩ rfl)
        simp only [Plan.proceed, hadmits.1, hadmits.2, hstate, if_true, Bool.false_eq_true,
          if_false]
    · by_cases honly : o.validateOnly = true
      · refine .inl (hstops (if_pos honly) ⟨⟨_, rfl⟩, ?_, rfl⟩ ?_) <;>
          cases p.graph.validate.isValid <;> rfl
      · refine .inl (hstops (?_ : _ = Turn.refused p.emptyEngine .invalidGraph)
          ⟨⟨false, rfl⟩, rfl, rfl⟩ rfl)
        rw [Plan.proceed, if_neg honly,
          if_neg fun hvalid => hadmits ⟨Bool.eq_false_iff.2 honly, hvalid⟩]

/-- **The first turn of a run is sound.** -/
theorem sound_opening (o : Options) (path : String) (around : Surroundings) (clock : Clock) :
    (opening o path around clock).Sound := by
  obtain ⟨⟨⟨success, hended⟩, -, -⟩, hquiet⟩ | ⟨p, src, e, g, state, -, -, hopens⟩ :=
    opening_cases o path around clock
  · exact Turn.sound_of_ended hended (awaiting_not_mem hquiet)
  · rw [hopens.opening_eq]
    refine Turn.Sound.after ?_ (endings_findings _)
    exact hopens.reads.sound_firstTurn hopens.hosts hopens.sessions
      (keyed_stateOn StateMap.keyed_empty hopens.entries) clock

end CommandLine

end Flowchart
