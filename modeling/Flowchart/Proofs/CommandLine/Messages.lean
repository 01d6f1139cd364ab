import Flowchart.Proofs.CommandLine.Divided

/-!
# Messages are told once

A turn tells what the steps that it has added to the history of its
session have to say, and a run is a sequence of turns, so it tells the
messages of the steps that it has added, each once (`Launch.tells`). A
run that goes on with a session does not tell again what the session has
said before. So runs that hand on one session tell all that the session
has to say, and nothing twice (`messages_are_told_once`), as long as each
of them leaves the session in the file that the next one reads. A run
that has only loaded its session does not, unless it has loaded it from
this file: the next run then goes on with what was there before
(`older_session_is_taken_up`).
-/

namespace Flowchart

/-- **The engine keeps no session.** -/
def Engine.KeepsNone (e : Engine) : Prop :=
  ∀ id, e.sessions.find? id = none

theorem Engine.KeepsOnly.not_keepsNone {e : Engine} {s : Session} (h : e.KeepsOnly s) :
    ¬ e.KeepsNone := by
  intro hnone
  cases (hnone s.id).symm.trans h.stored

namespace CommandLine

open Session (Entry)

variable {e e' : Engine} {g : Graph} {s t : Session} {call : Engine.Call} {c : Conversation}
  {past : List Entry} {told told' : List String}

/-! ## Messages of steps -/

/-- What a step says is the text that it has put out as its message. -/
theorem messagesOf_eq_filterMap (history : List Entry) :
    messagesOf history = history.filterMap fun e => (e.output.find? "message").bind Json.text? := by
  refine List.filterMap_congr fun e _ => ?_
  rcases e.output.find? "message" with _ | (_ | _ | _ | _ | _ | _) <;> rfl

/-- **A session that is saved and read again has said the same.** -/
theorem messagesOf_of_ofSaved?_saved (h : Session.ofSaved? s.saved = .ok t) :
    messagesOf t.history = messagesOf s.history := by
  have hsame := Session.texts_of_ofSaved?_saved h
  rw [messagesOf_eq_filterMap, messagesOf_eq_filterMap]
  generalize s.history = es at hsame ⊢
  generalize t.history = fs at hsame ⊢
  induction hsame with
  | nil => rfl
  | cons he _ ih => rw [List.filterMap_cons, List.filterMap_cons, he "message", ih]

/-! ## Turns -/

/-- **What was told is what was added**: the engine keeps one session,
which has come from a past by steps that had to say just this. -/
def Tells (e : Engine) (past : List Entry) (told : List String) : Prop :=
  ∃ s added, e.KeepsOnly s ∧ s.history = past ++ added ∧ told = messagesOf added

/-- Where nothing was added, nothing is to be told. -/
theorem tells_nil (h : e.KeepsOnly s) : Tells e s.history [] :=
  ⟨s, [], h, (List.append_nil _).symm, rfl⟩

/-- **What was told before comes first.** -/
theorem Tells.append (h : Tells e past told) (hs : e.KeepsOnly s)
    (h' : Tells e' s.history told') : Tells e' past (told ++ told') := by
  obtain ⟨t, added, ht, hhistory, rfl⟩ := h
  obtain ⟨u, added', hu, hhistory', rfl⟩ := h'
  obtain rfl := ht.only _ _ hs.stored
  refine ⟨u, added ++ added', hu, ?_, (messagesOf_append ..).symm⟩
  rw [hhistory', hhistory, List.append_assoc]

/-- A run of a session shows what the steps say that were not shown. -/
theorem messages_shownOf (run : Session.Run) (seen : Nat) :
    messages (shownOf run seen) = messagesOf (run.session.history.drop seen) :=
  messages_map_message _

/-- What is asked is no message. -/
theorem messages_askedOf (run : Session.Run) : messages (askedOf run) = [] := by
  rw [askedOf, messages_append]
  cases run.outcome.error? <;> cases run.outcome.message? <;> rfl

/-- **A turn in which a session is run** tells the messages of the steps
that it adds, if all steps before were shown. -/
theorem Ready.tells (h : Ready e g s call) :
    let t := Turn.served e g s call s.history.length
    Tells t.engine s.history (messages t.lines) := by
  intro t
  obtain ⟨added, hadded⟩ : s.history <+: (e.runOf g s call e.network).session.history :=
    (Session.continues_run { graph := g, registry := e.registry, clock := call.clock }
      e.settings.maxSteps { s with input := call.request.input } e.network).history
  have hshown : messages (shownOf (e.runOf g s call e.network) s.history.length) =
      messagesOf added := by
    rw [messages_shownOf, ← hadded, List.drop_left]
  have hturn : t.engine = (e.serve g s call).2 ∧ messages t.lines = messagesOf added := by
    obtain ⟨-, ht⟩ | ⟨-, ht⟩ | ⟨-, ht⟩ := Turn.served_cases e g s call s.history.length <;>
      refine ⟨congrArg Turn.engine ht, (congrArg (messages ·.lines) ht).trans ?_⟩
    · rw [messages_append, hshown, messages_askedOf, List.append_nil]
    · rw [messages_append, hshown]
      exact List.append_nil _
    · rw [messages_append, hshown]
      exact List.append_nil _
  rw [hturn.1, hturn.2]
  exact ⟨_, added, h.keepsOnly, hadded.symm, rfl⟩

/-- **One answer more** tells the messages of the steps that it adds. -/
theorem Conversation.Stands.tells_reply (h : c.Stands e g s) (a : Answer) :
    let t := c.reply e a.text a.clock
    Tells t.engine s.history (messages t.lines) := by
  intro t
  by_cases hdone : s.status = .completed
  · have ht : t = _ := h.reply_of_completed hdone a
    rw [ht]
    exact tells_nil h.keepsOnly
  · have ht : t = _ := h.reply_eq hdone a
    rw [ht, h.seen]
    exact (h.ready a).tells

/-- **All answers** tell the messages of the steps that they add. -/
theorem Turn.Sound.tells_afterAll {t : Turn} (hsound : t.Sound)
    (h : Tells t.engine past (messages t.lines)) (answers : List Answer) :
    Tells (t.afterAll answers).engine past (messages (t.afterAll answers).lines) := by
  induction answers generalizing t past with
  | nil => exact h
  | cons a answers ih =>
    cases hstanding : t.standing with
    | ended success =>
      rw [afterAll_of_ended hstanding]
      exact h
    | waits c =>
      obtain ⟨-, g, s, hstands⟩ := hsound.waits c hstanding
      -- the rest of the answers add to what the first one has left
      have hrest := ih (hstands.sound_reply a) (hstands.tells_reply a)
      rw [afterAll_cons hstanding, Turn.after, messages_append]
      exact h.append hstands.keepsOnly hrest

/-! ## Runs -/

/-- The steps of the session that a run goes on with, if it does. -/
def pastOf (resumed : Option Session) : List Entry :=
  (resumed.map (·.history)).getD []

/-- **The first turn of a run** ends it without a session, or tells the
messages of the steps that it adds. -/
theorem opening_tells (o : Options) (path : String) (around : Surroundings) (clock : Clock) :
    let t := opening o path around clock
    t.Barren ∨ ∃ resumed, resumedOf o around = .ok resumed ∧
      Tells t.engine (pastOf resumed) (messages t.lines) := by
  intro t
  obtain ⟨hbarren, -⟩ | ⟨p, src, e, g, state, -, -, hopens⟩ := opening_cases o path around clock
  · exact .inl hbarren
  · cases hp : p.resumed with
    | none =>
      have ht : t = _ := hopens.opening_eq
      rw [Plan.firstTurn_of_start hp hopens.hosts] at ht
      cases hstart : g.start? with
      | none =>
        rw [hstart] at ht
        left
        rw [ht]
        refine ⟨⟨false, rfl⟩, ?_, hopens.sessions⟩
        rw [Turn.after, messages_append, messages_findings]
        rfl
      | some node =>
        rw [hstart] at ht
        have hready := Plan.ready_started hopens.hosts hopens.sessions
          (keyed_stateOn StateMap.keyed_empty hopens.entries) node clock
        refine .inr ⟨none, hp ▸ hopens.reads.resumed, ?_⟩
        rw [ht, Turn.after, messages_append, messages_findings, List.nil_append]
        exact hready.tells
    | some s =>
      obtain ⟨c, -, -, hstands, -, hsilent, -⟩ := hopens.of_resumed hp
      refine .inr ⟨some s, hp ▸ hopens.reads.resumed, ?_⟩
      have htold : messages t.lines = [] := hsilent
      rw [htold]
      exact tells_nil hstands.keepsOnly

/-- **A run tells the messages of the steps that it adds** to the session
that it goes on with or starts, or it keeps no session and tells none. -/
theorem Launch.tells (l : Launch) :
    (l.report.engine.KeepsNone ∧ messages l.report.lines = []) ∨
    ∃ resumed, resumedOf l.options l.world.surroundings = .ok resumed ∧
      Tells l.report.engine (pastOf resumed) (messages l.report.lines) := by
  obtain ⟨hengine, hmessages⟩ := Turn.complete_leaves (l.first.afterAll l.answers)
    l.options.sessionFile l.world.files
  rw [l.report_eq, hengine, hmessages]
  obtain ⟨⟨success, hended⟩, hsilent, hsessions⟩ | ⟨resumed, hresumed, htells⟩ :=
    opening_tells l.options l.path l.world.surroundings (l.world.clock 0)
  · have hfirst : l.first.afterAll l.answers = l.first := Turn.afterAll_of_ended hended _
    rw [hfirst]
    refine .inl ⟨fun id => ?_, hsilent⟩
    have hnone : l.first.engine.sessions = {} := hsessions
    rw [hnone]
    rfl
  · have hsound : l.first.Sound := sound_opening _ _ _ _
    exact .inr ⟨resumed, hresumed, hsound.tells_afterAll htells l.answers⟩

/-! ## Chains of runs -/

/-- **One run follows another one**: the first one says that no answer is
left and has a file for its session, and the second one asks for the file
and finds it as the first one has left it. -/
structure Launch.Precedes (l m : Launch) (target : String) : Prop where
  /-- The first run says that no answer is left. -/
  pauses : Line.awaiting ∈ l.report.lines
  /-- It has a file for the session. -/
  saves : l.options.sessionFile = some target
  /-- The second run asks for the file. -/
  resumes : m.options.resume = some target
  /-- It finds the file as it was left. -/
  file : m.world.files.read target = l.report.files.read target

/-- **The file holds the session when the run is over**: the run has
written it there, or has read it from there. -/
def Launch.Leaves (l : Launch) (target : String) : Prop :=
  l.options.resume = none ∨ l.answers ≠ [] ∨ l.options.resume = some target

/-- **One run hands its session on to another one.** -/
def Launch.HandsOn (l m : Launch) : Prop :=
  ∃ target, l.Precedes m target ∧ l.Leaves target

/-- **Chains of runs**, with the last run set apart: the first run starts
anew, and each run is linked to the next one. -/
inductive Chain (Linked : Launch → Launch → Prop) : List Launch → Launch → Prop where
  /-- A run that starts anew. -/
  | anew {l : Launch} (h : l.options.resume = none) : Chain Linked [] l
  /-- One run more. -/
  | next {before : List Launch} {l m : Launch} (h : Chain Linked before l) (hm : Linked l m) :
    Chain Linked (before ++ [l]) m

/-- **A run that has only loaded its session** changes no file. -/
theorem Launch.of_loaded {l : Launch} (hpauses : Line.awaiting ∈ l.report.lines)
    (hresume : l.options.resume ≠ none) (hanswers : l.answers = []) :
    l.report.files = l.world.files ∧ ∃ s, l.report.engine.KeepsOnly s ∧
      resumedOf l.options l.world.surroundings = .ok (some s) := by
  have hreport : l.report = _ := l.report_eq
  rw [hanswers] at hreport
  rw [hreport] at hpauses
  have hsound : l.first.Sound := sound_opening _ _ _ _
  obtain ⟨c, -, -, hstanding, -⟩ := hsound.exists_waits hpauses
  obtain ⟨hnone, -⟩ | ⟨s, g, hresumed, hloaded, hstands⟩ := opening_waits hstanding
  · exact absurd hnone hresume
  · rw [Turn.afterAll, Turn.complete_of_loaded hstanding hloaded] at hreport
    rw [hreport]
    exact ⟨rfl, s, hstands.keepsOnly, hresumed⟩

/-- **The session that is handed on has said the same** in both runs. -/
theorem Launch.HandsOn.same_messages {l m : Launch} (h : l.HandsOn m)
    (ht : resumedOf m.options m.world.surroundings = .ok (some t)) :
    ∃ s, l.report.engine.KeepsOnly s ∧ messagesOf t.history = messagesOf s.history := by
  obtain ⟨target, hlink, hleaves⟩ := h
  by_cases hran : l.options.resume = none ∨ l.answers ≠ []
  · obtain ⟨-, s, hkeeps, -, -, -, hwritten⟩ :=
      run_saves l.understood hlink.saves hran hlink.pauses
    have hfile : m.world.surroundings.read target = .ok s.saved :=
      hlink.file.trans (Files.read_of_write hwritten)
    have hread : Session.ofSaved? s.saved = .ok t :=
      (resumedOf_eq_some_iff hlink.resumes hfile).1 ht
    exact ⟨s, hkeeps, messagesOf_of_ofSaved?_saved hread⟩
  · obtain ⟨hresume, hanswers⟩ := not_or.1 hran
    obtain ⟨hfiles, s, hkeeps, hs⟩ := of_loaded hlink.pauses hresume (not_not.1 hanswers)
    -- the file was not changed, so both runs have read the same from it
    have htarget : l.options.resume = some target :=
      (hleaves.resolve_left hresume).resolve_left hanswers
    have hread : m.world.surroundings.read target = l.world.surroundings.read target :=
      hlink.file.trans (congrArg (Files.read · target) hfiles)
    have hsame : resumedOf m.options m.world.surroundings =
        resumedOf l.options l.world.surroundings := by
      simp only [resumedOf, hlink.resumes, htarget, hread]
    obtain rfl := Option.some.inj (Except.ok.inj (ht.symm.trans (hsame.trans hs)))
    exact ⟨t, hkeeps, rfl⟩

/-- **The next run goes on telling** where the run before it has stopped, or
it comes to no session. -/
theorem Launch.HandsOn.tells {l m : Launch} (h : l.HandsOn m) :
    (m.report.engine.KeepsNone ∧ messages m.report.lines = []) ∨
    ∃ t s, l.report.engine.KeepsOnly t ∧ m.report.engine.KeepsOnly s ∧
      messagesOf t.history ++ messages m.report.lines = messagesOf s.history := by
  refine m.tells.imp_right ?_
  rintro ⟨resumed, hresumed, s, added, hkeeps, hhistory, htold⟩
  obtain ⟨target, hprecedes, -⟩ := id h
  cases resumed with
  | none => cases hprecedes.resumes.symm.trans (resume_of_resumedOf hresumed)
  | some u =>
    obtain ⟨t, ht, hsame⟩ := h.same_messages hresumed
    refine ⟨t, s, ht, hkeeps, ?_⟩
    calc messagesOf t.history ++ messages m.report.lines
        = messagesOf u.history ++ messagesOf added := by rw [hsame, htold]
      _ = messagesOf s.history := by
          rw [hhistory, messagesOf_append]
          rfl

/-- **Messages are told once.** A run tells, in order and each once, the
messages of the steps that it adds to the history of its session, however
many answers it reads and however it ends; a run that keeps no session
tells none. And if it is the last one of runs that hand on one session,
from one that starts anew, they together tell the messages of the whole
history of this session, unless the last one comes to no session. -/
theorem messages_are_told_once (before : List Launch) (last : Launch) :
    ((last.report.engine.KeepsNone ∧ messages last.report.lines = []) ∨
      ∃ resumed s added, resumedOf last.options last.world.surroundings = .ok resumed ∧
        last.report.engine.KeepsOnly s ∧ s.history = pastOf resumed ++ added ∧
        messages last.report.lines = messagesOf added) ∧
    (Chain Launch.HandsOn before last →
      (last.report.engine.KeepsNone ∧ messages last.report.lines = []) ∨
      ∃ s, last.report.engine.KeepsOnly s ∧
        before.flatMap (fun l => messages l.report.lines) ++ messages last.report.lines =
          messagesOf s.history) := by
  refine ⟨last.tells.imp_right ?_, fun hchain => ?_⟩
  · rintro ⟨resumed, hresumed, s, added, htells⟩
    exact ⟨resumed, s, added, hresumed, htells⟩
  induction hchain with
  | @anew l hnew =>
    refine l.tells.imp_right ?_
    rintro ⟨resumed, hresumed, s, added, hkeeps, hhistory, htold⟩
    rw [resumedOf, hnew] at hresumed
    obtain rfl := Except.ok.inj hresumed
    exact ⟨s, hkeeps, htold.trans (congrArg messagesOf hhistory.symm)⟩
  | @next before l m _ hlink ih =>
    refine hlink.tells.imp_right ?_
    rintro ⟨t, s, ht, hs, hsaid⟩
    obtain ⟨hnone, -⟩ | ⟨u, hu, hbefore⟩ := ih
    · exact absurd hnone ht.not_keepsNone
    · obtain rfl := hu.only _ _ ht.stored
      refine ⟨s, hs, ?_⟩
      rw [List.flatMap_append, List.flatMap_singleton, hbefore, hsaid]

/-! ## A file that is not written -/

/-- A flow that greets and asks for a name. -/
def greetingText : String :=
  "\x7b\"s\":\x7b\"type\":\"StartNode\",\"to\":[\x7b\"id\":\"m\"\x7d]\x7d," ++
  "\"m\":\x7b\"type\":\"MessageNode\",\"messageText\":\"Hi\",\"to\":[\x7b\"id\":\"q\"\x7d]\x7d," ++
  "\"q\":\x7b\"type\":\"QuestionNode\",\"promptText\":\"Name?\"," ++
  "\"to\":[\x7b\"id\":\"e\"\x7d]\x7d,\"e\":\x7b\"type\":\"EndNode\"\x7d\x7d"

/-- An older session, in which a step has said something else. -/
def olderSession : Session :=
  { Session.start "old" .nil "anonymous" "q" .empty .epoch with
    status := .awaitingInput
    history := [.ofResult "m" "MessageNode" (Step.shown "Hello" "") .epoch]
    prompt := some "Name?" }

/-- A folder that holds the flow and the older session. -/
def greetingWorld : World where
  files := .ofTexts "run" [("g.json", greetingText), ("p.json", olderSession.saved)]
  ids := .random 1
  clock := fun _ => { now := .epoch, stamp := "" }

/-- The flow is run up to its question, and its session is saved. -/
def greeting : List String :=
  ["--session-file", "q.json", "g.json"]

theorem ofArguments_greeting : Invocation.ofArguments greeting =
    .ok (.run { graph := some "g.json", sessionFile := some "q.json" } "g.json") := by
  decide +kernel

/-- **The run greets** and pauses, with a shallow session that is read as
it is written. -/
theorem greeting_greets :
    Line.awaiting ∈ (run greeting greetingWorld).lines ∧
      messages (run greeting greetingWorld).lines = ["Hi"] ∧
      ∀ e ∈ (run greeting greetingWorld).engine.sessions.sessions.entries,
        e.2.toJson.Exact ∧ e.2.Timely ∧ e.2.Shallow := by
  decide +kernel

/-- The session that the run has left, and its file. -/
theorem greeting_saves :
    ∃ s, Session.ofSaved? s.saved = .ok s ∧ greetingWorld.files.write "q.json" s.saved =
      (.ok (), (run greeting greetingWorld).files) := by
  obtain ⟨hawaiting, -, hsessions⟩ := greeting_greets
  obtain ⟨-, s, hkeeps, hkeyed, hinput, -, hwritten⟩ :=
    run_saves ofArguments_greeting rfl (.inl rfl) hawaiting
  obtain ⟨hexact, htimes, hshallow⟩ := hsessions _ (SortedMap.mem_of_find?_eq_some hkeeps.stored)
  exact ⟨s, ofSaved?_of_shallow hkeyed hinput hexact htimes hshallow, hwritten⟩

/-- What is there once a text was saved. -/
theorem read_greetingWorld {text : String} {files : Files}
    (h : greetingWorld.files.write "q.json" text = (.ok (), files)) :
    files.read "g.json" = .ok greetingText ∧ files.read "p.json" = .ok olderSession.saved := by
  obtain rfl : (greetingWorld.files.write "q.json" text).2 = files := congrArg Prod.snd h
  exact ⟨rfl, rfl⟩

/-- The older session is read as it was saved. -/
theorem olderSession_read : Session.ofSaved? olderSession.saved = .ok olderSession := by
  have hkeyed : olderSession.Keyed := by
    refine ⟨StateMap.keyed_empty, fun e he => ?_, nofun⟩
    obtain rfl := List.mem_singleton.1 he
    exact StateMap.keyed_ofEntries (by simp [Json.Keyed])
  exact ofSaved?_of_shallow hkeyed rfl (by decide +kernel) (by decide +kernel) (by decide +kernel)

theorem exists_greetingSource :
    ∃ src, Source.ofText? greetingText = .ok src ∧
      (Graph.ofSource (fun _ => .nil) .nil src).validate.isValid = true := by
  obtain ⟨src, hsrc, hvalid⟩ := Option.map_eq_some_iff.1 (show
    (Source.ofText? greetingText).toOption.map (fun src =>
      (Graph.ofSource (fun _ => .nil) .nil src).validate.isValid) = some true by decide +kernel)
  exact ⟨src, toOption_eq_some_iff.1 hsrc, hvalid⟩

/-- The options of a run that goes on with a session and has no answer. -/
def loadingOptions (path : String) (target : Option String) : Options where
  graph := some "g.json"
  resume := some path
  sessionFile := target

/-- A run with these options in a folder. -/
def loading {path : String} {target : Option String} {arguments : List String}
    (h : Invocation.ofArguments arguments = .ok (.run (loadingOptions path target) "g.json"))
    (files : Files) : Launch :=
  asking h { greetingWorld with files }

/-- It follows a run that says that no answer is left and leaves the
folder like this. -/
theorem precedes_loading {path : String} {target : Option String} {arguments : List String}
    (h : Invocation.ofArguments arguments = .ok (.run (loadingOptions path target) "g.json"))
    {l : Launch} (hpauses : Line.awaiting ∈ l.report.lines)
    (hsaves : l.options.sessionFile = some path) : l.Precedes (loading h l.report.files) path :=
  ⟨hpauses, hsaves, rfl, rfl⟩

/-- **A run without answers** loads its session and leaves it alone. -/
theorem loading_loads {path : String} {target : Option String} {files : Files}
    {arguments : List String}
    (h : Invocation.ofArguments arguments = .ok (.run (loadingOptions path target) "g.json"))
    (hgraph : files.read "g.json" = .ok greetingText)
    (hsession : files.read path = .ok s.saved) (hread : Session.ofSaved? s.saved = .ok s) :
    let r := (loading h files).report
    Line.awaiting ∈ r.lines ∧ messages r.lines = [] ∧ r.engine.KeepsOnly s ∧ r.files = files := by
  let w : World := { greetingWorld with files }
  let o := loadingOptions path target
  have hresumed : resumedOf o w.surroundings = .ok (some s) :=
    (resumedOf_eq_some_iff rfl hsession).2 hread
  obtain ⟨src, hsrc, hvalid⟩ := exists_greetingSource
  have hsettings : settingsOf o w.surroundings = .ok {} := rfl
  have hsource : w.surroundings.read "g.json" = .ok greetingText := hgraph
  have hstate : stateOn .empty o.state = .ok .empty := rfl
  obtain ⟨p, e, g, hopens, -, hp⟩ := exists_opens_of_there hsettings hsource hresumed hsrc hstate
    rfl (by rw [hvalid]; rfl) (w.clock 0)
  obtain ⟨c, hc, hloaded, hstands, -, hsilent, -⟩ := hopens.of_resumed hp
  have hanswers : w.answers o = [] := rfl
  intro r
  have hrun : r = _ := run_eq h w
  rw [hanswers, Turn.afterAll, Turn.complete_of_loaded hc hloaded] at hrun
  rw [hrun]
  refine ⟨by simp, ?_, hstands.keepsOnly, rfl⟩
  rw [messages_append, hsilent]
  rfl

theorem ofArguments_moving :
    Invocation.ofArguments ["--resume", "q.json", "--session-file", "p.json", "g.json"] =
      .ok (.run (loadingOptions "q.json" (some "p.json")) "g.json") := by
  decide +kernel

theorem ofArguments_goingOn :
    Invocation.ofArguments ["--resume", "p.json", "g.json"] =
      .ok (.run (loadingOptions "p.json" none) "g.json") := by
  decide +kernel

/-- The session is started. -/
def greetingLaunch : Launch :=
  asking ofArguments_greeting greetingWorld

/-- It is loaded, and is to be saved where the older one is. -/
def movingLaunch : Launch :=
  loading ofArguments_moving greetingLaunch.report.files

/-- It is to be gone on with from there. -/
def goingOnLaunch : Launch :=
  loading ofArguments_goingOn movingLaunch.report.files

/-- **What the runs do**: the first one greets, the second one loads its
session, and the third one loads the older one. -/
theorem greeting_launches :
    greetingLaunch.Precedes movingLaunch "q.json" ∧ movingLaunch.Precedes goingOnLaunch "p.json" ∧
      messages greetingLaunch.report.lines = ["Hi"] ∧ messages movingLaunch.report.lines = [] ∧
      messages goingOnLaunch.report.lines = [] ∧
      ¬ movingLaunch.report.engine.KeepsNone ∧
      goingOnLaunch.report.engine.KeepsOnly olderSession := by
  obtain ⟨hawaiting, hgreets, -⟩ := greeting_greets
  obtain ⟨s, hread, hwritten⟩ := greeting_saves
  have hgreeting : greetingLaunch.report = run greeting greetingWorld := rfl
  rw [← hgreeting] at hawaiting hgreets hwritten
  obtain ⟨hgraph, holder⟩ := read_greetingWorld hwritten
  obtain ⟨hmoving, hsilent, hkeeps, hfiles⟩ :=
    loading_loads ofArguments_moving hgraph (Files.read_of_write hwritten) hread
  have hmoved : movingLaunch.report.files = greetingLaunch.report.files := hfiles
  rw [← hmoved] at hgraph holder
  obtain ⟨-, hsilent', hkeeps', -⟩ :=
    loading_loads ofArguments_goingOn hgraph holder olderSession_read
  exact ⟨precedes_loading ofArguments_moving hawaiting rfl,
    precedes_loading ofArguments_goingOn hmoving rfl, hgreets, hsilent, hsilent',
    hkeeps.not_keepsNone, hkeeps'⟩

/-- **The greeting is told once** by two runs, of which the second one goes
on with the session of the first one. -/
theorem greeting_told_once :
    Chain Launch.HandsOn [greetingLaunch] movingLaunch ∧
      ∃ s, movingLaunch.report.engine.KeepsOnly s ∧ messagesOf s.history = ["Hi"] := by
  obtain ⟨hprecedes, -, hgreets, hsilent, -, hkeeps, -⟩ := greeting_launches
  have hchain : Chain Launch.HandsOn [greetingLaunch] movingLaunch :=
    .next (.anew rfl) ⟨"q.json", hprecedes, .inl rfl⟩
  refine ⟨hchain, ?_⟩
  obtain ⟨hnone, -⟩ | ⟨s, hs, htold⟩ := (messages_are_told_once _ _).2 hchain
  · exact absurd hnone hkeeps
  · refine ⟨s, hs, htold.symm.trans ?_⟩
    rw [List.flatMap_singleton, hgreets, hsilent]
    rfl

/-- **An older session is taken up.** Each run asks for the file that the
one before was to save its session to. The second one says that no answer
is left, but has not written the file, so the third one goes on with the
older session that is still there: the runs have told one message, and
the session has said another one. -/
theorem older_session_is_taken_up :
    Chain (fun l m => ∃ target, l.Precedes m target) [greetingLaunch, movingLaunch] goingOnLaunch ∧
      [greetingLaunch, movingLaunch].flatMap (fun l => messages l.report.lines) ++
        messages goingOnLaunch.report.lines = ["Hi"] ∧
      ∃ s, goingOnLaunch.report.engine.KeepsOnly s ∧ messagesOf s.history = ["Hello"] := by
  obtain ⟨hfirst, hsecond, hgreets, hsilent, hsilent', -, hkeeps⟩ := greeting_launches
  refine ⟨.next (.next (.anew rfl) ⟨_, hfirst⟩) ⟨_, hsecond⟩, ?_, olderSession, hkeeps, rfl⟩
  simp only [List.flatMap_cons, List.flatMap_nil, hgreets, hsilent, hsilent', List.append_nil]

end CommandLine

end Flowchart
