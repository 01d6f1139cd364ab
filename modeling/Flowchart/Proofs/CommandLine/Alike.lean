import Flowchart.Proofs.CommandLine.Opening
import Flowchart.Proofs.Session.Anonymous

/-!
# Conversations that are alike

Two conversations may be about sessions that are equal but for names and
times, in engines of their own (`Talk.Alike`). The same answer makes turns
of them that tell the same, and either both runs are over or the
conversations stay alike (`Talk.Alike.reply`); so do all answers
(`Turn.Alike.afterAll`), whatever is left tells the same
(`Turn.Alike.complete`), and two runs that start anew begin alike
(`alike_opening`). The steps are to send no requests, and they are to
bear the same stamps.
-/

namespace Flowchart

/-- Any text can be written to the path, if there is one. -/
def Files.CanSave (files : Files) (target : Option String) : Prop :=
  ∀ path ∈ target, ∀ text, (files.write path text).1 = .ok ()

namespace CommandLine

/-! ## What is told -/

/-- Times do not show in messages. -/
theorem messagesOf_timeless (history : List Session.Entry) :
    messagesOf (history.map Session.Entry.timeless) = messagesOf history := by
  rw [messagesOf, List.filterMap_map]
  rfl

/-- What is shown of alike sessions is the same. -/
theorem shownOf_congr {run run' : Session.Run} (h : run.session.Alike run'.session)
    (seen : Nat) : shownOf run seen = shownOf run' seen := by
  have hshown : messagesOf (run.session.history.drop seen) =
      messagesOf (run'.session.history.drop seen) := by
    rw [← messagesOf_timeless, ← messagesOf_timeless (run'.session.history.drop seen),
      List.map_drop, List.map_drop, h.history]
  rw [shownOf, shownOf, hshown]

/-! ## Alike conversations -/

/-- **How a flow is run**: in which graph, but for names, and how many
steps a run may take. -/
structure Footing where
  /-- The graph. -/
  graph : Graph
  /-- How many steps a run may take. -/
  maxSteps : Nat

/-- The engine runs a graph on this footing, and no step of it sends
requests. -/
structure Footing.Under (f : Footing) (e : Engine) (g : Graph) : Prop where
  /-- The graph is the same but for names. -/
  graph : g.anonymous = f.graph.anonymous
  /-- A run may take as many steps. -/
  maxSteps : e.settings.maxSteps = f.maxSteps
  /-- No step sends requests. -/
  callFree : g.CallFree

/-- The footing stays while the graph and the settings do. -/
theorem Footing.Under.of_settings {f : Footing} {e e' : Engine} {g : Graph} (h : f.Under e g)
    (hsettings : e'.settings = e.settings) : f.Under e' g :=
  ⟨h.graph, hsettings ▸ h.maxSteps, h.callFree⟩

/-- **A conversation in its engine**, with the session that it is about. -/
structure Talk where
  /-- The conversation. -/
  conversation : Conversation
  /-- The engine. -/
  engine : Engine
  /-- The graph of the flow. -/
  graph : Graph
  /-- The session. -/
  session : Session
  /-- The conversation is about the session. -/
  stands : conversation.Stands engine graph session

/-- A turn that leads to the conversation and tells nothing. -/
def Talk.turn (k : Talk) : Turn where
  engine := k.engine
  standing := .waits k.conversation

/-- The turn leads to the conversation. -/
structure Turn.LeadsTo (t : Turn) (k : Talk) : Prop where
  /-- The engine is that of the conversation. -/
  engine : t.engine = k.engine
  /-- An answer is needed. -/
  standing : t.standing = .waits k.conversation

theorem Turn.LeadsTo.after {t : Turn} {k : Talk} (h : t.LeadsTo k) (lines : List Line) :
    (t.after lines).LeadsTo k :=
  ⟨h.engine, h.standing⟩

/-- **Two conversations are alike**: both wait for an answer to sessions
that are alike, and go on on one footing. -/
structure Talk.Alike (f : Footing) (k l : Talk) : Prop where
  /-- The sessions are equal but for names and times. -/
  sessions : k.session.Alike l.session
  /-- An answer is needed. -/
  waits : k.session.status = .awaitingInput
  /-- The first one goes on on this footing. -/
  left : f.Under k.engine k.graph
  /-- So does the second one. -/
  right : f.Under l.engine l.graph

/-- **Two turns are alike**: they tell the same, the engines keep alike
sessions, and either both runs are over or both turns lead to
conversations that are alike. -/
structure Turn.Alike (f : Footing) (t t' : Turn) : Prop where
  /-- The messages are the same. -/
  messages : messages t.lines = messages t'.lines
  /-- So is how the run ends. -/
  endings : endings t.lines = endings t'.lines
  /-- The sessions are alike. -/
  sessions : ∃ s s', t.engine.KeepsOnly s ∧ t'.engine.KeepsOnly s' ∧ s.Alike s'
  /-- Both runs are over, or both go on. -/
  standing : (∃ success, t.standing = .ended success ∧ t'.standing = .ended success) ∨
    ∃ k l : Talk, t.LeadsTo k ∧ t'.LeadsTo l ∧ k.Alike f l

variable {f : Footing} {t t' : Turn} {k l : Talk} {e e' : Engine} {g g' : Graph} {s s' : Session}
  {call call' : Engine.Call} {lines lines' : List Line}

theorem Turn.Alike.after (h : t.Alike f t') (hmessages : CommandLine.messages lines =
    CommandLine.messages lines') (hendings : CommandLine.endings lines =
    CommandLine.endings lines') : (t.after lines).Alike f (t'.after lines') := by
  refine ⟨?_, ?_, h.sessions, h.standing.imp id ?_⟩
  · rw [Turn.after, Turn.after, messages_append, messages_append, hmessages, h.messages]
  · rw [Turn.after, Turn.after, endings_append, endings_append, hendings, h.endings]
  · rintro ⟨k, l, hk, hl, hkl⟩
    exact ⟨k, l, hk.after lines, hl.after lines', hkl⟩

theorem Talk.Alike.turn (h : k.Alike f l) : k.turn.Alike f l.turn :=
  ⟨rfl, rfl, ⟨_, _, k.stands.keepsOnly, l.stands.keepsOnly, h.sessions⟩,
    .inr ⟨k, l, ⟨rfl, rfl⟩, ⟨rfl, rfl⟩, h⟩⟩

/-- The turn is the conversation, after what the turn tells. -/
theorem Turn.LeadsTo.turn_after (h : t.LeadsTo k) : k.turn.after t.lines = t := by
  obtain ⟨lines, engine, standing⟩ := t
  obtain ⟨hengine, hstanding⟩ := h
  obtain rfl : engine = k.engine := hengine
  obtain rfl : standing = .waits k.conversation := hstanding
  simp only [Talk.turn, Turn.after, List.append_nil]

/-! ## Alike sessions are run -/

/-- **Runs of alike sessions** leave alike sessions and end in the same
way. -/
theorem alike_runOf (h : Ready e g s call) (h' : Ready e' g' s' call') (hsessions : s.Alike s')
    (hf : f.Under e g) (hf' : f.Under e' g') (hinput : call.request.input = call'.request.input)
    (hstamps : call.clock.SameStamps call'.clock) :
    (e.runOf g s call e.network).session.Alike (e'.runOf g' s' call' e'.network).session ∧
      (e.runOf g s call e.network).outcome = (e'.runOf g' s' call' e'.network).outcome := by
  rw [Engine.runOf, Engine.runOf, h.hosts.registry, h'.hosts.registry, hf.maxSteps, hf'.maxSteps,
    ← hinput]
  exact (hsessions.withInput _).run (hf.graph.trans hf'.graph.symm)
    (Session.silent_of_callFree hf.callFree _) hstamps _ _ _

/-- **Turns in which alike sessions are run are alike.** -/
theorem alike_served (h : Ready e g s call) (h' : Ready e' g' s' call') (hsessions : s.Alike s')
    (hf : f.Under e g) (hf' : f.Under e' g') (hinput : call.request.input = call'.request.input)
    (hstamps : call.clock.SameStamps call'.clock) (seen : Nat) :
    (Turn.served e g s call seen).Alike f (Turn.served e' g' s' call' seen) := by
  obtain ⟨hran, houtcome⟩ := alike_runOf h h' hsessions hf hf' hinput hstamps
  have hshown := shownOf_congr hran seen
  have hkept : ∃ u u', (e.serve g s call).2.KeepsOnly u ∧ (e'.serve g' s' call').2.KeepsOnly u' ∧
      u.Alike u' := ⟨_, _, h.keepsOnly, h'.keepsOnly, hran⟩
  -- one status tells how both end
  have hcases := Turn.served_cases e' g' s' call' seen
  obtain ⟨hstatus, ht⟩ | ⟨hstatus, ht⟩ | ⟨hstatus, ht⟩ := Turn.served_cases e g s call seen
  · obtain ⟨hstatus', ht'⟩ | ⟨hstatus', -⟩ | ⟨hstatus', -⟩ := hcases
    · have hasked : askedOf (e.runOf g s call e.network) =
          askedOf (e'.runOf g' s' call' e'.network) := by rw [askedOf, askedOf, houtcome]
      rw [ht, ht', hshown, hasked]
      exact ⟨rfl, rfl, hkept, .inr ⟨⟨_, _, _, _, h.stands hstatus⟩,
        ⟨_, _, _, _, h'.stands hstatus'⟩, ⟨rfl, rfl⟩, ⟨rfl, rfl⟩,
        ⟨hran, hstatus, hf.of_settings rfl, hf'.of_settings rfl⟩⟩⟩
    · cases hstatus.symm.trans (hran.status.trans hstatus')
    · cases hstatus.symm.trans (hran.status.trans hstatus')
  · obtain ⟨hstatus', -⟩ | ⟨-, ht'⟩ | ⟨hstatus', -⟩ := hcases
    · cases hstatus.symm.trans (hran.status.trans hstatus')
    · rw [ht, ht', hshown, hran.state]
      exact ⟨rfl, rfl, hkept, .inl ⟨true, rfl, rfl⟩⟩
    · cases hstatus.symm.trans (hran.status.trans hstatus')
  · obtain ⟨hstatus', -⟩ | ⟨hstatus', -⟩ | ⟨-, ht'⟩ := hcases
    · cases hstatus.symm.trans (hran.status.trans hstatus')
    · cases hstatus.symm.trans (hran.status.trans hstatus')
    · rw [ht, ht', hshown, houtcome]
      exact ⟨rfl, rfl, hkept, .inl ⟨false, rfl, rfl⟩⟩

/-! ## Answers -/

/-- The same answer, at a time whose steps bear the same stamps. -/
structure Answer.Alike (a b : Answer) : Prop where
  /-- The texts are the same. -/
  text : a.text = b.text
  /-- So are the stamps of the steps. -/
  stamps : a.clock.SameStamps b.clock

/-- **One answer more** keeps conversations alike. -/
theorem Talk.Alike.reply (h : k.Alike f l) {a b : Answer} (hab : a.Alike b) :
    (k.conversation.reply k.engine a.text a.clock).Alike f
      (l.conversation.reply l.engine b.text b.clock) := by
  have hopen : k.session.status ≠ .completed := by rw [h.waits]; nofun
  have hopen' : l.session.status ≠ .completed := by rw [← h.sessions.status, h.waits]; nofun
  have hinput : (k.conversation.callOf a).request.input =
      (l.conversation.callOf b).request.input := by
    simp only [Conversation.callOf, Conversation.request, hab.text]
  have hseen : k.conversation.seen = l.conversation.seen := by
    have hlength := congrArg List.length h.sessions.history
    rwa [List.length_map, List.length_map, ← k.stands.seen, ← l.stands.seen] at hlength
  rw [k.stands.reply_eq hopen, l.stands.reply_eq hopen', hseen]
  exact alike_served (k.stands.ready a) (l.stands.ready b) h.sessions h.left h.right hinput
    hab.stamps _

/-- **All answers** keep turns alike. -/
theorem Turn.Alike.afterAll (h : t.Alike f t') {answers answers' : List Answer}
    (hanswers : List.Forall₂ Answer.Alike answers answers') :
    (t.afterAll answers).Alike f (t'.afterAll answers') := by
  induction hanswers generalizing t t' with
  | nil => exact h
  | cons hab _ ih =>
    obtain ⟨success, hended, hended'⟩ | ⟨k, l, hk, hl, hkl⟩ := h.standing
    · rw [afterAll_of_ended hended, afterAll_of_ended hended']
      exact h
    · rw [afterAll_cons hk.standing, afterAll_cons hl.standing, hk.engine, hl.engine]
      exact (ih (hkl.reply hab)).after h.messages h.endings

/-! ## The beginning of a run -/

/-- Sessions that are started at one node are alike. -/
theorem alike_started {p p' : Plan} {node node' : Graph.Node} (h : node.id = node'.id)
    (state : StateMap) (clock clock' : Clock) :
    (p.started e node state clock).Alike (p'.started e' node' state clock') := by
  simp only [Plan.started, Engine.opened, Session.start, h]
  rfl

/-- **Two runs that start anew begin alike**, if the first one comes to
wait. -/
theorem alike_opening {o o' : Options} {path path' : String} {around around' : Surroundings}
    {clock clock' : Clock} {p p' : Plan} {src : Source} {state : StateMap} {c : Conversation}
    (h : Opens o path around clock p src e g state)
    (h' : Opens o' path' around' clock' p' src e' g' state)
    (hp : p.resumed = none) (hp' : p'.resumed = none)
    (hf : f.Under e g) (hf' : f.Under e' g') (hstamps : clock.SameStamps clock')
    (hwaits : (opening o path around clock).standing = .waits c) :
    (opening o path around clock).Alike f (opening o' path' around' clock') := by
  have hstate : state.Keyed := keyed_stateOn StateMap.keyed_empty h.entries
  have hstart : g.start?.map Graph.Node.anonymous = g'.start?.map Graph.Node.anonymous := by
    rw [← Graph.start?_anonymous, ← Graph.start?_anonymous, hf.graph, hf'.graph]
  rw [h.opening_eq] at hwaits ⊢
  rw [h'.opening_eq]
  refine Turn.Alike.after ?_ ?_ ?_
  · replace hwaits : (p.firstTurn e state clock).standing = .waits c := hwaits
    rw [Plan.firstTurn_of_start hp h.hosts] at hwaits ⊢
    rw [Plan.firstTurn_of_start hp' h'.hosts]
    cases hnode : g.start? with
    | none =>
      rw [hnode] at hwaits
      cases hwaits
    | some node =>
      rw [hnode] at hstart
      obtain ⟨node', hnode', hsame⟩ := Option.map_eq_some_iff.1 hstart.symm
      have hid : node.id = node'.id := (congrArg Graph.Node.id hsame).symm
      rw [hnode']
      exact alike_served (Plan.ready_started h.hosts h.sessions hstate node clock)
        (Plan.ready_started h'.hosts h'.sessions hstate node' clock')
        (alike_started hid state clock clock') (hf.of_settings rfl) (hf'.of_settings rfl) rfl
        hstamps 0
  · rw [messages_findings, messages_findings]
  · rw [endings_findings, endings_findings]

/-! ## The end of a run -/

/-- **Two reports are alike**: the runs end in the same way, they tell the
same, and they leave alike sessions. -/
structure Report.Alike (r r' : Report) : Prop where
  /-- The exits are the same. -/
  exit : r.exit = r'.exit
  /-- The messages are the same. -/
  messages : messages r.lines = messages r'.lines
  /-- So is how the run ends. -/
  endings : endings r.lines = endings r'.lines
  /-- The sessions are alike. -/
  sessions : ∃ s s', r.engine.KeepsOnly s ∧ r'.engine.KeepsOnly s' ∧ s.Alike s'

/-- A session that waits is left behind, in its file if it was run. -/
theorem Turn.complete_of_waits {c : Conversation} (h : t.standing = .waits c)
    (hs : t.engine.sessions.find? c.sessionId = some s) {target : Option String} {files : Files}
    (hsave : Files.CanSave files target) :
    ∃ files', t.complete target files [] = {
      exit := 0, lines := t.lines ++ [.awaiting], files := files', engine := t.engine } := by
  rw [complete, h]
  cases target with
  | none => exact ⟨files, rfl⟩
  | some path =>
    cases hmoved : c.moved with
    | false =>
      refine ⟨files, ?_⟩
      simp [Conversation.leave, Conversation.toSave, hmoved, Report.after]
    | true =>
      obtain hwritten : (files.write path s.saved).1 = .ok () := hsave path rfl s.saved
      refine ⟨(files.write path s.saved).2, ?_⟩
      simp only [Conversation.leave, Conversation.toSave, hmoved, if_true, hs]
      rcases hfiles : files.write path s.saved with ⟨_ | _, files'⟩
      · rw [hfiles] at hwritten
        cases hwritten
      · rfl

/-- **Turns that are alike leave reports that are alike**, if the files
can be written. -/
theorem Turn.Alike.complete (h : t.Alike f t') {target target' : Option String}
    {files files' : Files} (hsave : Files.CanSave files target)
    (hsave' : Files.CanSave files' target') :
    (t.complete target files []).Alike (t'.complete target' files' []) := by
  obtain ⟨success, hended, hended'⟩ | ⟨k, l, hk, hl, -⟩ := h.standing
  · rw [Turn.complete, Turn.complete, hended, hended']
    exact ⟨rfl, h.messages, h.endings, h.sessions⟩
  · obtain ⟨files₁, hleft⟩ := complete_of_waits hk.standing (hk.engine ▸ k.stands.stored) hsave
    obtain ⟨files₂, hleft'⟩ := complete_of_waits hl.standing (hl.engine ▸ l.stands.stored) hsave'
    rw [hleft, hleft']
    refine ⟨rfl, ?_, ?_, h.sessions⟩
    · simp only [messages_append, h.messages]
    · simp only [endings_append, h.endings]

end CommandLine

end Flowchart
