import Flowchart.CommandLine.Run
import Flowchart.Proofs.Engine.Rest
import Flowchart.Proofs.Session.Loaded

/-!
# Turns of a conversation

A run is its first turn, followed by one turn for each answer
(`Turn.afterAll`) and by what it leaves when no answer is left
(`Turn.complete_eq`). While a turn waits for an answer, the engine keeps
the flow and the one session that the conversation is about
(`Conversation.Stands`). The first turn waits like this
(`sound_opening`), and every answer keeps it so (`Turn.Sound.afterAll`).
-/

namespace Flowchart

/-- **The engine keeps one session** and no other one. -/
structure Engine.KeepsOnly (e : Engine) (s : Session) : Prop where
  /-- The session is stored. -/
  stored : e.sessions.find? s.id = some s
  /-- There is no other one. -/
  only : ∀ id t, e.sessions.find? id = some t → t = s

namespace CommandLine

open Engine (told)

/-! ## Endings -/

/-- The line tells how a run ends. -/
def Line.isEnding : Line → Bool
  | awaiting | completed | state _ | failed _ => true
  | help _ | error _ | warning _ | refusal _ | valid | message _ | complaint _ | prompt _ => false

/-- The lines that tell how a run ends, with the state at the end. -/
def endings (lines : List Line) : List Line :=
  lines.filter Line.isEnding

@[simp] theorem endings_append (l r : List Line) : endings (l ++ r) = endings l ++ endings r :=
  List.filter_append ..

/-- Lines of a kind that tells no ending. -/
theorem endings_map {α : Type} {line : α → Line} (h : ∀ a, (line a).isEnding = false)
    (l : List α) : endings (l.map line) = [] := by
  refine List.filter_eq_nil_iff.2 fun x hx => ?_
  obtain ⟨a, -, rfl⟩ := List.mem_map.1 hx
  rw [h]
  exact Bool.false_ne_true

/-- Lines that tell no ending do not say that no answer is left. -/
theorem awaiting_not_mem {lines : List Line} (h : endings lines = []) : Line.awaiting ∉ lines :=
  fun hmem => List.filter_eq_nil_iff.1 h _ hmem rfl

/-! ## A run is a sequence of turns -/

namespace Turn

variable {t : Turn} {c : Conversation} {lines : List Line} {a : Answer} {answers : List Answer}

/-- The turn after some answers more; those that are not needed are not
looked at. -/
def afterAll (t : Turn) : List Answer → Turn
  | [] => t
  | a :: answers =>
    match t.standing with
    | .ended _ => t
    | .waits c => ((c.reply t.engine a.text a.clock).afterAll answers).after t.lines

theorem afterAll_of_ended {success : Bool} (h : t.standing = .ended success)
    (answers : List Answer) : t.afterAll answers = t := by
  cases answers with
  | nil => rfl
  | cons a answers => rw [afterAll, h]

theorem afterAll_cons (h : t.standing = .waits c) (a : Answer) (answers : List Answer) :
    t.afterAll (a :: answers) =
      ((c.reply t.engine a.text a.clock).afterAll answers).after t.lines := by
  rw [afterAll, h]

theorem after_after (t : Turn) (l r : List Line) : (t.after r).after l = t.after (l ++ r) := by
  simp only [after, List.append_assoc]

/-- Lines before a turn are lines before what comes of it. -/
theorem afterAll_after (t : Turn) (lines : List Line) (answers : List Answer) :
    (t.after lines).afterAll answers = (t.afterAll answers).after lines := by
  have hstanding : (t.after lines).standing = t.standing := rfl
  cases answers with
  | nil => rfl
  | cons a answers =>
    cases h : t.standing with
    | ended success => rw [afterAll_of_ended (hstanding.trans h), afterAll_of_ended h]
    | waits c =>
      rw [afterAll_cons (hstanding.trans h), afterAll_cons h, after_after]
      rfl

/-- **Answers come one after another.** -/
theorem afterAll_append (t : Turn) (xs ys : List Answer) :
    t.afterAll (xs ++ ys) = (t.afterAll xs).afterAll ys := by
  induction xs generalizing t with
  | nil => rfl
  | cons x xs ih =>
    cases h : t.standing with
    | ended success => rw [afterAll_of_ended h, afterAll_of_ended h, afterAll_of_ended h]
    | waits c =>
      rw [List.cons_append, afterAll_cons h, afterAll_cons h, ih, afterAll_after]

/-- Lines before the last turn are lines before what it leaves. -/
theorem complete_after (t : Turn) (lines : List Line) (target : Option String) (files : Files) :
    (t.after lines).complete target files [] = (t.complete target files []).after lines := by
  have hstanding : (t.after lines).standing = t.standing := rfl
  rw [complete, complete, hstanding]
  cases t.standing with
  | ended success => rfl
  | waits c =>
    simp only [Report.after, after, List.append_assoc]

/-- **A run takes all answers and then leaves.** -/
theorem complete_eq (t : Turn) (target : Option String) (files : Files) (answers : List Answer) :
    t.complete target files answers = (t.afterAll answers).complete target files [] := by
  induction answers generalizing t with
  | nil => rfl
  | cons a answers ih =>
    cases h : t.standing with
    | ended success =>
      rw [afterAll_of_ended h, complete, complete, h]
    | waits c =>
      have hfirst : t.complete target files (a :: answers) =
          ((c.reply t.engine a.text a.clock).complete target files answers).after t.lines := by
        rw [complete, h]
      rw [hfirst, ih, afterAll_cons h, complete_after]

end Turn

/-! ## Conversations about a session -/

/-- **The engine hosts a flow** with a graph: it runs it with the built-in
executors, and no session is refused. -/
structure Hosts (e : Engine) (workflowId : Uuid) (g : Graph) : Prop where
  /-- The flow is kept. -/
  flow : ∃ w, e.flows.find? workflowId = some w ∧ w.graph = g
  /-- The executors are the built-in ones. -/
  registry : e.registry = .builtIn
  /-- No session is refused. -/
  gate : e.sessions.Open

/-- **A conversation is about a session**, the only one in the engine. -/
structure Conversation.Stands (c : Conversation) (e : Engine) (g : Graph) (s : Session) :
    Prop where
  /-- The flow is there. -/
  hosts : Hosts e c.workflowId g
  /-- The session is stored. -/
  stored : e.sessions.find? c.sessionId = some s
  /-- It is the only one. -/
  only : ∀ id t, e.sessions.find? id = some t → id = c.sessionId
  /-- It bears its identifier. -/
  id : s.id = c.sessionId
  /-- It belongs to the flow. -/
  workflowId : s.workflowId = c.workflowId
  /-- All of its steps were shown. -/
  seen : c.seen = s.history.length
  /-- Its documents are proper. -/
  keyed : s.Keyed
  /-- If it was run, it waits for an answer. -/
  rests : c.moved = true → s.input = none ∧ s.status = .awaitingInput

/-- The session is the one that the engine keeps. -/
theorem Conversation.Stands.keepsOnly {c : Conversation} {e : Engine} {g : Graph} {s : Session}
    (h : c.Stands e g s) : e.KeepsOnly s := by
  refine ⟨h.id ▸ h.stored, fun id t ht => ?_⟩
  obtain rfl := h.only id t ht
  exact Option.some.inj (ht.symm.trans h.stored)

/-- **A turn is sound**: it does not say that no answer is left, and while
it waits, it shows no ending and is about a session. -/
structure Turn.Sound (t : Turn) : Prop where
  /-- It does not say that no answer is left. -/
  silent : Line.awaiting ∉ t.lines
  /-- It waits for an answer to a session. -/
  waits : ∀ c, t.standing = .waits c → endings t.lines = [] ∧ ∃ g s, c.Stands t.engine g s

variable {t : Turn} {c : Conversation} {e : Engine} {g : Graph} {s : Session} {call : Engine.Call}
  {lines : List Line} {seen : Nat}

theorem Turn.Sound.after (h : t.Sound) (hlines : endings lines = []) : (t.after lines).Sound := by
  refine ⟨fun hmem => ?_, fun c hc => ?_⟩
  · rcases List.mem_append.1 hmem with hmem | hmem
    · exact awaiting_not_mem hlines hmem
    · exact h.silent hmem
  · obtain ⟨hquiet, hstands⟩ := h.waits c hc
    refine ⟨?_, hstands⟩
    rw [Turn.after, endings_append, hlines, hquiet, List.append_nil]

/-- A turn that ends the run is sound if it does not say that no answer
is left. -/
theorem Turn.sound_of_ended {success : Bool} (h : t.standing = .ended success)
    (hsilent : Line.awaiting ∉ t.lines) : t.Sound :=
  ⟨hsilent, fun _ hc => nomatch h.symm.trans hc⟩

/-! ## Sessions that are run -/

/-- **The session can be run** with the answer of a call: the engine hosts
its flow and keeps no other session. -/
structure Ready (e : Engine) (g : Graph) (s : Session) (call : Engine.Call) : Prop where
  /-- The flow is there. -/
  hosts : Hosts e s.workflowId g
  /-- The documents of the session are proper. -/
  keyed : s.Keyed
  /-- So is the answer. -/
  input : ∀ v ∈ call.request.input, v.Keyed
  /-- There is no other session. -/
  only : ∀ id t, e.sessions.find? id = some t → id = s.id

theorem Hosts.serve {workflowId : Uuid} (h : Hosts e workflowId g) (s : Session)
    (call : Engine.Call) : Hosts (e.serve g s call).2 workflowId g :=
  ⟨h.flow, h.registry, Engine.open_serve h.gate g s call⟩

/-- What is shown of a run: the steps that were not shown before. -/
def shownOf (run : Session.Run) (seen : Nat) : List Line :=
  (messagesOf (run.session.history.drop seen)).map .message

theorem endings_shownOf (run : Session.Run) (seen : Nat) : endings (shownOf run seen) = [] :=
  endings_map (fun _ => rfl) _

/-- What is asked after a run. -/
def askedOf (run : Session.Run) : List Line :=
  (run.outcome.error?.map .complaint).toList ++ (run.outcome.message?.map .prompt).toList

theorem endings_askedOf (run : Session.Run) : endings (askedOf run) = [] := by
  rw [askedOf, endings_append]
  cases run.outcome.error? <;> cases run.outcome.message? <;> rfl

/-- The turn in which a session is run. -/
def Turn.served (e : Engine) (g : Graph) (s : Session) (call : Engine.Call) (seen : Nat) : Turn :=
  .ofResponse (e.serve g s call).2 s.workflowId seen (told (e.runOf g s call e.network))

/-- **The turn of a call that runs a session.** -/
theorem Turn.ofRequest_of_runs {e₀ : Engine} (h : e.Runs call e₀ g s) (hopen : e₀.sessions.Open)
    (hflow : call.request.workflowId = s.workflowId) (seen : Nat) :
    Turn.ofRequest e seen call.request call.clock = Turn.served e₀ g s call seen := by
  have hresponse : (e₀.serve g s call).1 = told (e₀.runOf g s call e₀.network) := by
    rw [Engine.response_serve, Session.Store.put_of_pass (hopen _)]
  rw [Turn.ofRequest, Engine.execute_of_runs h, served, hflow, ← hresponse]

/-- **How a turn in which a session is run ends**: the session waits, or
the run is over. -/
theorem Turn.served_cases (e : Engine) (g : Graph) (s : Session) (call : Engine.Call)
    (seen : Nat) :
    let run := e.runOf g s call e.network
    (run.session.status = .awaitingInput ∧ Turn.served e g s call seen = {
      lines := shownOf run seen ++ askedOf run
      engine := (e.serve g s call).2
      standing := .waits {
        workflowId := s.workflowId, sessionId := run.session.id
        seen := run.session.history.length } }) ∨
    (run.session.status = .completed ∧ Turn.served e g s call seen = {
      lines := shownOf run seen ++ [.completed, .state run.session.state]
      engine := (e.serve g s call).2
      standing := .ended true }) ∨
    (run.session.status = .failed ∧ Turn.served e g s call seen = {
      lines := shownOf run seen ++ [.failed (run.outcome.error?.getD "unknown error")]
      engine := (e.serve g s call).2
      standing := .ended false }) := by
  intro run
  have hrested : run.session.status ≠ .running := (Session.rested_run _ _ _ _).notRunning
  have hserved : Turn.served e g s call seen =
      .ofResponse (e.serve g s call).2 s.workflowId seen (told run) := rfl
  rw [hserved]
  cases hstatus : run.session.status with
  | running => exact absurd hstatus hrested
  | awaitingInput =>
    simp [ofResponse, told, Engine.Response.ofSession, hstatus, Session.Status.isTerminal,
      shownOf, askedOf]
  | completed =>
    simp [ofResponse, told, Engine.Response.ofSession, hstatus, Session.Status.isTerminal, shownOf]
  | failed =>
    simp [ofResponse, told, Engine.Response.ofSession, hstatus, Session.Status.isTerminal, shownOf]

/-- **The session that was run is the one that is kept.** -/
theorem Ready.keepsOnly (h : Ready e g s call) :
    (e.serve g s call).2.KeepsOnly (e.runOf g s call e.network).session := by
  have hid : (e.runOf g s call e.network).session.id = s.id := (Session.rested_run _ _ _ _).id
  have hfind := Engine.find?_serve h.hosts.gate g s call
  refine ⟨?_, fun id t ht => ?_⟩
  · rw [hfind, if_pos hid.symm]
  · rw [hfind] at ht
    split at ht
    · exact (Option.some.inj ht).symm
    · next hne => exact absurd (h.only id t ht).symm hne

/-- **A session that is run** is what the conversation is about next, or
the run is over. -/
theorem Ready.stands (h : Ready e g s call)
    (hwaits : (e.runOf g s call e.network).session.status = .awaitingInput) :
    Conversation.Stands {
        workflowId := s.workflowId
        sessionId := (e.runOf g s call e.network).session.id
        seen := (e.runOf g s call e.network).session.history.length }
      (e.serve g s call).2 g (e.runOf g s call e.network).session := by
  have hrested := Session.rested_run { graph := g, registry := e.registry, clock := call.clock }
    e.settings.maxSteps { s with input := call.request.input } e.network
  have hkeeps : e.registry.KeepsKeys := h.hosts.registry ▸ Step.keepsKeys_builtIn
  refine ⟨h.hosts.serve s call, h.keepsOnly.stored, fun id t ht => ?_, rfl, hrested.workflowId,
    rfl, (h.keyed.withInput h.input).run hkeeps _ _, fun _ => ⟨hrested.input, hwaits⟩⟩
  have hid : (e.runOf g s call e.network).session.id = s.id := hrested.id
  rw [hid]
  rw [Engine.find?_serve h.hosts.gate] at ht
  split at ht
  · next heq => exact heq.symm
  · exact h.only id t ht

theorem Ready.sound (h : Ready e g s call) (seen : Nat) : (Turn.served e g s call seen).Sound := by
  have hsilent := awaiting_not_mem (endings_shownOf (e.runOf g s call e.network) seen)
  obtain ⟨hwaits, ht⟩ | ⟨-, ht⟩ | ⟨-, ht⟩ := Turn.served_cases e g s call seen
  · rw [ht]
    have hquiet : endings (shownOf (e.runOf g s call e.network) seen ++
        askedOf (e.runOf g s call e.network)) = [] := by
      rw [endings_append, endings_shownOf, endings_askedOf, List.append_nil]
    refine ⟨awaiting_not_mem hquiet, ?_⟩
    rintro c ⟨⟩
    exact ⟨hquiet, g, _, h.stands hwaits⟩
  · rw [ht]
    exact Turn.sound_of_ended rfl (by simpa using hsilent)
  · rw [ht]
    exact Turn.sound_of_ended rfl (by simpa using hsilent)

/-! ## Answers -/

namespace Conversation

/-- The call that an answer makes. -/
def callOf (c : Conversation) (a : Answer) : Engine.Call where
  request := c.request a.text
  clock := a.clock

theorem Stands.names (h : c.Stands e g s) (a : Answer) :
    (c.callOf a).Names c.sessionId s.workflowId :=
  ⟨rfl, h.workflowId.symm⟩

theorem Stands.ready (h : c.Stands e g s) (a : Answer) : Ready e g s (c.callOf a) := by
  refine ⟨h.workflowId ▸ h.hosts, h.keyed, ?_, fun id t ht => ?_⟩
  · rintro v ⟨⟩
    trivial
  · rw [h.id]
    exact h.only id t ht

/-- **An answer runs the session** that the conversation is about. -/
theorem Stands.reply_eq (h : c.Stands e g s) (hopen : s.status ≠ .completed) (a : Answer) :
    c.reply e a.text a.clock = Turn.served e g s (c.callOf a) c.seen := by
  obtain ⟨w, hw, hgraph⟩ := h.hosts.flow
  have hruns : e.Runs (c.callOf a) e g s :=
    hgraph ▸ .resumes (h.names a) h.stored hopen (h.workflowId ▸ hw)
  exact Turn.ofRequest_of_runs hruns h.hosts.gate h.workflowId.symm c.seen

/-- **A session that was completed** before it was loaded is shown as it
is. -/
theorem Stands.reply_of_completed (h : c.Stands e g s) (hdone : s.status = .completed)
    (a : Answer) : c.reply e a.text a.clock = {
      lines := [.completed, .state s.state]
      engine := e
      standing := .ended true } := by
  have hexecute : e.execute (c.request a.text) a.clock = _ :=
    Engine.execute_of_completed (h.names a) h.stored hdone
  rw [reply, Turn.ofRequest, hexecute, h.seen]
  simp [Turn.ofResponse, Engine.Response.ofSession, hdone, Session.Status.isTerminal, messagesOf]

/-- **One answer more** keeps the conversation about its session. -/
theorem Stands.sound_reply (h : c.Stands e g s) (a : Answer) :
    (c.reply e a.text a.clock).Sound := by
  by_cases hdone : s.status = .completed
  · rw [h.reply_of_completed hdone]
    exact Turn.sound_of_ended rfl (by simp)
  · rw [h.reply_eq hdone]
    exact (h.ready a).sound c.seen

end Conversation

/-- **All answers** keep the conversation about its session. -/
theorem Turn.Sound.afterAll (h : t.Sound) (answers : List Answer) : (t.afterAll answers).Sound := by
  induction answers generalizing t with
  | nil => exact h
  | cons a answers ih =>
    cases hstanding : t.standing with
    | ended success =>
      rw [afterAll_of_ended hstanding]
      exact h
    | waits c =>
      obtain ⟨hquiet, g, s, hstands⟩ := h.waits c hstanding
      rw [afterAll_cons hstanding]
      exact (ih (hstands.sound_reply a)).after hquiet

end CommandLine

end Flowchart
