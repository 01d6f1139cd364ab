import Flowchart.Proofs.CommandLine.Alike
import Flowchart.Proofs.CommandLine.Leaving

/-!
# Divided runs

A run may be divided where it waits: one run gives the first answers and
saves its session, a second one loads it and gives the other answers
(`Divided`). Together they tell what one run with all answers tells
(`divided_runs_tell_the_same`). The numbers of the session are to be read
as they are written; where they are not, the second run goes on with
others (`divided_run_changes_a_number`).
-/

namespace Flowchart

namespace Session

variable {s t : Session}

/-- A session that is read again is alike. -/
theorem Rereads.alike (h : s.Rereads t) : s.Alike t := by
  have hsteps : List.Forall₂ Eq (s.history.map Entry.timeless) (t.history.map Entry.timeless) := by
    refine List.forall₂_map_left_iff.2 (List.forall₂_map_right_iff.2 (h.history.imp ?_))
    intro e e' he
    rw [he.others]
    rfl
  rw [List.forall₂_eq_eq_eq] at hsteps
  rw [Alike, h.others]
  simp only [anonymous, timeless, hsteps]

end Session

namespace CommandLine

/-! ## Runs to be made -/

/-- **A run to be made**: its arguments with what they ask for, and what
it finds. -/
structure Launch where
  /-- The arguments. -/
  arguments : List String
  /-- The options. -/
  options : Options
  /-- The path of the graph. -/
  path : String
  /-- The arguments ask for these. -/
  understood : Invocation.ofArguments arguments = .ok (.run options path)
  /-- What the run finds. -/
  world : World

namespace Launch

/-- What the run leaves. -/
def report (l : Launch) : Report :=
  run l.arguments l.world

/-- The texts of the answers, those of the options before those of the
input. -/
def texts (l : Launch) : List String :=
  l.options.inputs ++ inputLines l.world.input

/-- The first turn. -/
def first (l : Launch) : Turn :=
  opening l.options l.path l.world.surroundings (l.world.clock 0)

/-- The answers. -/
def answers (l : Launch) : List Answer :=
  l.world.answers l.options

/-- **Two runs are of one flow**, asked for in the same way. -/
structure Like (l m : Launch) : Prop where
  /-- The graph is the same. -/
  source : l.world.files.read l.path = m.world.files.read m.path
  /-- The settings come to the same. -/
  settings : settingsOf l.options l.world.surroundings = settingsOf m.options m.world.surroundings
  /-- The entries of the state are the same. -/
  state : l.options.state = m.options.state
  /-- Errors of the graph are ignored by both or by none. -/
  noValidate : l.options.noValidate = m.options.noValidate
  /-- Neither stops after validation, or both do. -/
  validateOnly : l.options.validateOnly = m.options.validateOnly

end Launch

variable {l m whole first second : Launch} {t : Turn} {target : String}
  {arguments : List String}

theorem Launch.report_eq (l : Launch) : l.report =
    (l.first.afterAll l.answers).complete l.options.sessionFile l.world.files [] :=
  run_eq l.understood l.world

/-- The last turn of a run is sound. -/
theorem Launch.sound (l : Launch) : (l.first.afterAll l.answers).Sound :=
  sound_last l.options l.path l.world

/-- **What is opened for one run is opened for the other.** -/
theorem Launch.Like.exists_opens {p : Plan} {src : Source} {e : Engine} {g : Graph}
    {state : StateMap} {resumed : Option Session} (h : l.Like m)
    (hopens : Opens l.options l.path l.world.surroundings (l.world.clock 0) p src e g state)
    (hadmits : l.options.Admits p) (hresumed : resumedOf m.options m.world.surroundings =
      .ok resumed) :
    ∃ p' e' g', Opens m.options m.path m.world.surroundings (m.world.clock 0) p' src e' g' state ∧
      p'.settings = p.settings ∧ p'.resumed = resumed := by
  obtain ⟨hruns, hvalid⟩ := hadmits
  rw [hopens.reads.isValid_eq (fun _ => .nil) .nil, h.noValidate] at hvalid
  have hsource : m.world.surroundings.read m.path = .ok p.source :=
    h.source.symm.trans hopens.reads.source
  exact exists_opens_of_there (h.settings.symm.trans hopens.reads.settings) hsource hresumed
    hopens.reads.parsed (h.state ▸ hopens.entries) (h.validateOnly.symm.trans hruns) hvalid _

/-! ## Answers at the same times -/

/-- Answers with the same stamps are alike. -/
theorem forall₂_alike (texts : List String) {c d : Nat → Clock}
    (h : ∀ i < texts.length, (c i).SameStamps (d i)) :
    List.Forall₂ Answer.Alike (texts.mapIdx fun i text => { text, clock := c i })
      (texts.mapIdx fun i text => { text, clock := d i }) := by
  induction texts generalizing c d with
  | nil => exact .nil
  | cons text texts ih =>
    rw [List.mapIdx_cons, List.mapIdx_cons]
    refine .cons ⟨rfl, h 0 (Nat.succ_pos _)⟩ (ih fun i hi => h (i + 1) (Nat.succ_lt_succ hi))

/-! ## Dividing a run -/

/-- **A run is divided into two** at a pause: the first one gives some of
the answers and saves its session, and the second one loads it and gives
the other ones at the same times. No step sends requests, and sessions can
be saved. -/
structure Divided (whole first second : Launch) (target : String) : Prop where
  /-- The whole run starts anew. -/
  whole_anew : whole.options.resume = none
  /-- So does the first one. -/
  first_anew : first.options.resume = none
  /-- The flow of the first run is that of the whole one. -/
  first_like : first.Like whole
  /-- So is that of the second one. -/
  second_like : first.Like second
  /-- No step sends requests. -/
  callFree : ∀ ids workflowId text g, first.world.files.read first.path = .ok text →
    Graph.ofText? ids workflowId text = .ok g → g.CallFree
  /-- The answers of the whole run are those of both. -/
  texts : whole.texts = first.texts ++ second.texts
  /-- The first turns and answers come at the same times. -/
  first_stamps : ∀ i ≤ first.texts.length, (first.world.clock i).SameStamps (whole.world.clock i)
  /-- The other answers do, too. -/
  second_stamps : ∀ i < second.texts.length, (second.world.clock (i + 1)).SameStamps
    (whole.world.clock (first.texts.length + (i + 1)))
  /-- The first run says that no answer is left. -/
  pauses : Line.awaiting ∈ first.report.lines
  /-- It has a file for the session. -/
  saves : first.options.sessionFile = some target
  /-- The second run asks for the file. -/
  resumes : second.options.resume = some target
  /-- It finds the file as it was left. -/
  file : second.world.files.read target = first.report.files.read target
  /-- The file is accepted. -/
  accepted : ∃ t, resumedOf second.options second.world.surroundings = .ok (some t)
  /-- If the whole run has a file for the session, it can be written. -/
  whole_canSave : whole.world.files.CanSave whole.options.sessionFile
  /-- So it is with the second run. -/
  second_canSave : second.world.files.CanSave second.options.sessionFile

/-- The answers of the whole run are alike with those of the two. -/
theorem Divided.answers (h : Divided whole first second target) :
    ∃ xs ys, whole.answers = xs ++ ys ∧ List.Forall₂ Answer.Alike first.answers xs ∧
      List.Forall₂ Answer.Alike second.answers ys := by
  have hwhole : whole.answers =
      first.texts.mapIdx (fun i text => ⟨text, whole.world.clock (i + 1)⟩) ++
        second.texts.mapIdx
          (fun i text => ⟨text, whole.world.clock (i + first.texts.length + 1)⟩) := by
    rw [← List.mapIdx_append, ← h.texts]
    rfl
  refine ⟨_, _, hwhole, forall₂_alike first.texts fun i hi => h.first_stamps (i + 1) hi,
    forall₂_alike second.texts fun i hi => ?_⟩
  rw [Nat.add_assoc, Nat.add_left_comm]
  exact h.second_stamps i hi

/-! ## The pause -/

/-- What is left when no answer is left: the engine of the last turn, and
no message more. -/
theorem Turn.complete_leaves (t : Turn) (target : Option String) (files : Files) :
    (t.complete target files []).engine = t.engine ∧
      messages (t.complete target files []).lines = messages t.lines := by
  rw [complete]
  cases t.standing with
  | ended success => exact ⟨rfl, rfl⟩
  | waits c =>
    simp only [Report.after, Conversation.leave, messages_append]
    split
    · exact ⟨rfl, List.append_nil _⟩
    · exact ⟨rfl, List.append_nil _⟩
    · split <;> exact ⟨rfl, List.append_nil _⟩

/-- **A run from a conversation on**, after what was told before. -/
theorem Turn.LeadsTo.complete {k : Talk} (h : t.LeadsTo k) (answers : List Answer)
    (target : Option String) (files : Files) :
    (t.afterAll answers).complete target files [] =
      ((k.turn.afterAll answers).complete target files []).after t.lines := by
  rw [← Turn.complete_after, ← Turn.afterAll_after, h.turn_after]

/-- The flow of a source is run on one footing, wherever it is opened. -/
theorem Opens.under {o o' : Options} {path path' : String} {around around' : Surroundings}
    {clock clock' : Clock} {p p' : Plan} {src : Source} {e e' : Engine} {g g' : Graph}
    {state state' : StateMap} (h : Opens o path around clock p src e g state)
    (h' : Opens o' path' around' clock' p' src e' g' state') (hsettings : p'.settings = p.settings)
    (hfree : g.CallFree) :
    ({ graph := g, maxSteps := p.settings.maxSteps } : Footing).Under e' g' := by
  obtain ⟨ids, hg⟩ := h.compiled
  obtain ⟨ids', hg'⟩ := h'.compiled
  have hsame : g'.anonymous = g.anonymous := by
    rw [hg, hg']
    exact Graph.anonymous_ofSource ..
  refine ⟨hsame, ?_, ?_⟩
  · rw [h'.settings, hsettings]
  · rw [← Graph.callFree_anonymous_iff, hsame, Graph.callFree_anonymous_iff]
    exact hfree

/-- **A run that goes on with a session** leads to a conversation about it,
and has told nothing of it yet. -/
theorem Opens.exists_talk {o : Options} {path : String} {around : Surroundings} {clock : Clock}
    {p : Plan} {src : Source} {e : Engine} {g : Graph} {state : StateMap} {s : Session}
    (h : Opens o path around clock p src e g state) (hp : p.resumed = some s) :
    ∃ k : Talk, (opening o path around clock).LeadsTo k ∧ k.session = s ∧ k.graph = g ∧
      k.engine.settings = e.settings ∧ messages (opening o path around clock).lines = [] ∧
      endings (opening o path around clock).lines = [] := by
  obtain ⟨c, hc, -, hstands, hsettings, hmessages, hendings⟩ := h.of_resumed hp
  exact ⟨⟨c, _, g, s, hstands⟩, ⟨rfl, hc⟩, rfl, rfl, hsettings.trans h.settings.symm, hmessages,
    hendings⟩

namespace Divided

/-- The first run comes to wait. -/
theorem exists_waits (h : Divided whole first second target) :
    ∃ c, (first.first.afterAll first.answers).standing = .waits c := by
  have hpauses := h.pauses
  rw [Launch.report_eq] at hpauses
  obtain ⟨c, -, -, hc, -⟩ := first.sound.exists_waits hpauses
  exact ⟨c, hc⟩

/-- **The first run is opened**, and waits for an answer at once. -/
theorem exists_opens (h : Divided whole first second target) :
    ∃ p src e g state, first.options.Admits p ∧
      Opens first.options first.path first.world.surroundings (first.world.clock 0) p src e g
        state ∧
      g.CallFree ∧ ∃ c, first.first.standing = .waits c := by
  obtain ⟨c, hc⟩ := h.exists_waits
  have hfirst : ∃ c, first.first.standing = .waits c := by
    cases hstanding : first.first.standing with
    | waits c => exact ⟨c, rfl⟩
    | ended success =>
      rw [Turn.afterAll_of_ended hstanding] at hc
      cases hstanding.symm.trans hc
  obtain ⟨c, hc⟩ := hfirst
  obtain ⟨⟨⟨success, hended⟩, -, -⟩, -⟩ | ⟨p, src, e, g, state, -, hadmits, hopens⟩ :=
    opening_cases first.options first.path first.world.surroundings (first.world.clock 0)
  · cases hended.symm.trans hc
  · obtain ⟨ids, hg⟩ := hopens.compiled
    have hcompiled : Graph.ofText? ids p.workflowId p.source = .ok g :=
      map_eq_ok_iff.2 ⟨src, hopens.reads.parsed, hg.symm⟩
    exact ⟨p, src, e, g, state, hadmits, hopens,
      h.callFree ids p.workflowId p.source g hopens.reads.source hcompiled, c, hc⟩

/-- **The session that is loaded is alike** with the one that was left. -/
theorem alike_of_accepted (h : Divided whole first second target)
    (hexact : ∀ s, first.report.engine.KeepsOnly s → s.toJson.Exact) {t : Session}
    (ht : resumedOf second.options second.world.surroundings = .ok (some t)) :
    ∃ s, first.report.engine.KeepsOnly s ∧ s.Alike t := by
  obtain ⟨-, s, hkeeps, hkeyed, hinput, -, hwritten⟩ :=
    run_saves first.understood h.saves (.inl h.first_anew) h.pauses
  have hfile : second.world.surroundings.read target = .ok s.saved :=
    h.file.trans (Files.read_of_write hwritten)
  have hread : Session.ofSaved? s.saved = .ok t := (resumedOf_eq_some_iff h.resumes hfile).1 ht
  have hnull : s.input ≠ some .null := by rw [hinput]; nofun
  exact ⟨s, hkeeps, (Session.rereads_of_ofSaved?_saved hkeyed hnull (hexact s hkeeps) hread).alike⟩

/-- **Until the first run waits, the whole one is alike.** -/
theorem alike_until_pause (h : Divided whole first second target) {p : Plan} {src : Source}
    {e : Engine} {g : Graph} {state : StateMap} {c : Conversation}
    (hadmits : first.options.Admits p)
    (hopens : Opens first.options first.path first.world.surroundings (first.world.clock 0) p src e
      g state)
    (hfree : g.CallFree) (hc : first.first.standing = .waits c) :
    ∃ xs ys, whole.answers = xs ++ ys ∧ List.Forall₂ Answer.Alike second.answers ys ∧
      (first.first.afterAll first.answers).Alike { graph := g, maxSteps := p.settings.maxSteps }
        (whole.first.afterAll xs) := by
  have hnew {l : Launch} (hl : l.options.resume = none) :
      resumedOf l.options l.world.surroundings = .ok none := by rw [resumedOf, hl]
  have hp : p.resumed = none :=
    Except.ok.inj (hopens.reads.resumed.symm.trans (hnew h.first_anew))
  obtain ⟨p₁, e₁, g₁, hopens₁, hsettings₁, hp₁⟩ :=
    h.first_like.exists_opens hopens hadmits (hnew h.whole_anew)
  obtain ⟨xs, ys, hanswers, hxs, hys⟩ := h.answers
  have hbegin := alike_opening hopens hopens₁ hp hp₁ (hopens.under hopens rfl hfree)
    (hopens.under hopens₁ hsettings₁ hfree) (h.first_stamps 0 (Nat.zero_le _)) hc
  exact ⟨xs, ys, hanswers, hys, hbegin.afterAll hxs⟩

/-- **Where the whole run is divided**: a turn of it leads to a
conversation, after the messages of the first run, and the second run
leads to one that is alike. -/
structure Pause (whole first second : Launch) (f : Footing) (t : Turn) (k l : Talk)
    (answers : List Answer) : Prop where
  /-- The turn leads to the conversation of the whole run. -/
  leads : t.LeadsTo l
  /-- From there, the whole run goes on with the answers that are left. -/
  goes_on : whole.report =
    (t.afterAll answers).complete whole.options.sessionFile whole.world.files []
  /-- So far it has told what the first run has told. -/
  messages : messages t.lines = messages first.report.lines
  /-- It is not over. -/
  endings : endings t.lines = []
  /-- The second run leads to its conversation. -/
  loads : second.first.LeadsTo k
  /-- It tells no message before. -/
  no_messages : CommandLine.messages second.first.lines = []
  /-- Nor is it over. -/
  no_endings : CommandLine.endings second.first.lines = []
  /-- The conversations are alike. -/
  alike : k.Alike f l
  /-- The answers are alike. -/
  replies : List.Forall₂ Answer.Alike second.answers answers

/-- **There is a place where the whole run is divided**, if the numbers of
the session are read as they are written. -/
theorem exists_pause (h : Divided whole first second target)
    (hexact : ∀ s, first.report.engine.KeepsOnly s → s.toJson.Exact) :
    ∃ f t k l answers, Pause whole first second f t k l answers := by
  obtain ⟨p, src, e, g, state, hadmits, hopens, hfree, c, hc⟩ := h.exists_opens
  obtain ⟨xs, ys, hanswers, hys, hlast⟩ := h.alike_until_pause hadmits hopens hfree hc
  obtain ⟨cw, hcw⟩ := h.exists_waits
  obtain ⟨success, hended, -⟩ | ⟨k, l, hk, hl, hkl⟩ := hlast.standing
  · cases hended.symm.trans hcw
  obtain ⟨hengine, hmessages⟩ := Turn.complete_leaves (first.first.afterAll first.answers)
    first.options.sessionFile first.world.files
  rw [← first.report_eq] at hengine hmessages
  -- the second run has loaded the session of the first one
  obtain ⟨loaded, hloaded⟩ := h.accepted
  obtain ⟨s, hkeeps, hst⟩ := h.alike_of_accepted hexact hloaded
  have hs : s = k.session := by
    rw [hengine, hk.engine] at hkeeps
    exact k.stands.keepsOnly.only _ _ hkeeps.stored
  obtain ⟨p₂, e₂, g₂, hopens₂, hsettings₂, hp₂⟩ :=
    h.second_like.exists_opens hopens hadmits hloaded
  obtain ⟨k₂, hk₂, hsession₂, hgraph₂, hengine₂, hmessages₂, hendings₂⟩ := hopens₂.exists_talk hp₂
  have hunder := hopens.under hopens₂ hsettings₂ hfree
  refine ⟨{ graph := g, maxSteps := p.settings.maxSteps }, whole.first.afterAll xs, k₂, l, ys, hl,
    ?_, ?_, ?_, hk₂, hmessages₂, hendings₂, ?_, hys⟩
  · rw [← Turn.afterAll_append, ← hanswers]
    exact whole.report_eq
  · rw [hmessages, hlast.messages]
  · rw [← hlast.endings]
    exact (first.sound.waits cw hcw).1
  · refine ⟨?_, ?_, ?_, hkl.right⟩
    · rw [hsession₂]
      exact hst.symm.trans (hs ▸ hkl.sessions)
    · rw [hsession₂, ← hst.status, hs, hkl.waits]
    · rw [hgraph₂]
      exact hunder.of_settings hengine₂

end Divided

/-- **Two runs tell what one tells.** A run is divided at a pause: the
first part waits for an answer and saves its session, and the second part
loads it and gives the answers that are left. If the numbers of the
session are read as they are written, the second part ends as the whole
run does, with the same exit and the same state, the messages of both
parts are those of the whole run, and the sessions at the end are equal
but for names and times. -/
theorem divided_runs_tell_the_same (h : Divided whole first second target)
    (hexact : ∀ s, first.report.engine.KeepsOnly s → s.toJson.Exact) :
    second.report.exit = whole.report.exit ∧
      endings second.report.lines = endings whole.report.lines ∧
      messages first.report.lines ++ messages second.report.lines = messages whole.report.lines ∧
      ∃ s s', second.report.engine.KeepsOnly s ∧ whole.report.engine.KeepsOnly s' ∧
        s.Alike s' := by
  obtain ⟨f, t, k, l, answers, hpause⟩ := h.exists_pause hexact
  have hend := (hpause.alike.turn.afterAll hpause.replies).complete h.second_canSave
    h.whole_canSave
  have hsecond := hpause.loads.complete second.answers second.options.sessionFile
    second.world.files
  have hwhole := hpause.leads.complete answers whole.options.sessionFile whole.world.files
  rw [← second.report_eq] at hsecond
  rw [← hpause.goes_on] at hwhole
  rw [hsecond, hwhole]
  refine ⟨hend.exit, ?_, ?_, hend.sessions⟩
  · rw [Report.after, Report.after, endings_append, endings_append, hpause.no_endings,
      hpause.endings, hend.endings]
  · rw [Report.after, Report.after, messages_append, messages_append, hpause.no_messages,
      hpause.messages, hend.messages, List.nil_append]

/-! ## A flow that asks once -/

/-- The options of a run that has an answer. -/
def askedAtOnce (entries : List String) : Options where
  state := entries
  inputs := ["Ann"]
  graph := some "g.json"

/-- The options of a run that has none, and saves its session. -/
def askedFirst (entries : List String) : Options where
  state := entries
  sessionFile := some "p.json"
  graph := some "g.json"

/-- The options of a run that goes on with the session and has the
answer. -/
def askedThen (entries : List String) : Options where
  state := entries
  inputs := ["Ann"]
  resume := some "p.json"
  graph := some "g.json"

/-- A run of the flow. -/
def asking {o : Options} (h : Invocation.ofArguments arguments = .ok (.run o "g.json"))
    (w : World) : Launch where
  arguments
  options := o
  path := "g.json"
  understood := h
  world := w

theorem callFree_askingText {ids : Nat → Uuid} {workflowId : Uuid} {g : Graph}
    (h : Graph.ofText? ids workflowId askingText = .ok g) : g.CallFree := by
  obtain ⟨src, hsrc, -, hfree⟩ := exists_askingSource
  obtain ⟨src', hsrc', rfl⟩ := map_eq_ok_iff.1 h
  obtain rfl := Except.ok.inj (hsrc.symm.trans hsrc')
  rw [← Graph.callFree_anonymous_iff,
    Graph.anonymous_ofSource ids (fun _ => .nil) workflowId .nil, Graph.callFree_anonymous_iff]
  exact hfree

/-- **The run of the flow is divided at its question**, if the session is
accepted. -/
theorem divided_asking {entries a b c : List String}
    (ha : Invocation.ofArguments a = .ok (.run (askedAtOnce entries) "g.json"))
    (hb : Invocation.ofArguments b = .ok (.run (askedFirst entries) "g.json"))
    (hc : Invocation.ofArguments c = .ok (.run (askedThen entries) "g.json"))
    (hpauses : Line.awaiting ∈ (run b askingWorld).lines)
    (haccepted : ∃ t, resumedOf (askedThen entries)
      (laterWorld (run b askingWorld).files).surroundings = .ok (some t)) :
    Divided (asking ha askingWorld) (asking hb askingWorld)
      (asking hc (laterWorld (run b askingWorld).files)) "p.json" := by
  obtain ⟨-, s, -, -, -, -, hwritten⟩ := run_saves hb rfl (.inl rfl) hpauses
  have hlater : (run b askingWorld).files.read "g.json" = .ok askingText :=
    (read_askingWorld hwritten).1
  have hnow : askingWorld.files.read "g.json" = .ok askingText := rfl
  exact {
    whole_anew := rfl
    first_anew := rfl
    first_like := ⟨rfl, rfl, rfl, rfl, rfl⟩
    second_like := ⟨hnow.trans hlater.symm, rfl, rfl, rfl, rfl⟩
    callFree := fun ids workflowId text g htext hg => by
      obtain rfl := Except.ok.inj (hnow.symm.trans htext)
      exact callFree_askingText hg
    texts := rfl
    first_stamps := fun _ _ _ => rfl
    second_stamps := fun _ _ _ => rfl
    pauses := hpauses
    saves := rfl
    resumes := rfl
    file := rfl
    accepted := haccepted
    whole_canSave := nofun
    second_canSave := nofun }

theorem ofArguments_askedAtOnce :
    Invocation.ofArguments ["--input", "Ann", "g.json"] = .ok (.run (askedAtOnce []) "g.json") := by
  decide +kernel

theorem ofArguments_askedThen :
    Invocation.ofArguments ["--resume", "p.json", "--input", "Ann", "g.json"] =
      .ok (.run (askedThen []) "g.json") := by
  decide +kernel

/-- The flow is run at once. -/
def askedLaunch : Launch :=
  asking ofArguments_askedAtOnce askingWorld

/-- The flow is run up to its question. -/
def pausingLaunch : Launch :=
  asking ofArguments_pausing askingWorld

/-- The session is gone on with. -/
def answeringLaunch : Launch :=
  asking ofArguments_askedThen (laterWorld (run pausing askingWorld).files)

/-- **The answer may come in a later run.** -/
theorem answer_in_later_run :
    Divided askedLaunch pausingLaunch answeringLaunch "p.json" ∧
      answeringLaunch.report.exit = askedLaunch.report.exit ∧
      endings answeringLaunch.report.lines = endings askedLaunch.report.lines ∧
      messages pausingLaunch.report.lines ++ messages answeringLaunch.report.lines =
        messages askedLaunch.report.lines := by
  obtain ⟨s, hkeeps, -, hexact, hread, hwritten⟩ := pausing_saves
  have haccepted : resumedOf (askedThen [])
      (laterWorld (run pausing askingWorld).files).surroundings = .ok (some s) :=
    resumedOf_laterWorld hread hwritten rfl
  have hdivided : Divided askedLaunch pausingLaunch answeringLaunch "p.json" :=
    divided_asking ofArguments_askedAtOnce ofArguments_pausing ofArguments_askedThen
      pausing_pauses.1 ⟨s, haccepted⟩
  have hreport : pausingLaunch.report = run pausing askingWorld := rfl
  have honly (t : Session) (ht : pausingLaunch.report.engine.KeepsOnly t) : t.toJson.Exact := by
    rw [hreport] at ht
    obtain rfl := ht.only _ _ hkeeps.stored
    exact hexact
  obtain ⟨hexit, hendings, hmessages, -⟩ := divided_runs_tell_the_same hdivided honly
  exact ⟨hdivided, hexit, hendings, hmessages⟩

/-! ## A number that changes -/

/-- What an answer makes of a session, on a footing. -/
def Footing.answered (f : Footing) (s : Session) (a : Answer) : Session :=
  (({ s with input := some (.string a.text) } : Session).run
    { graph := f.graph, registry := .builtIn, clock := a.clock } f.maxSteps {}).session

/-- **An answer to a conversation** does to its session what it does
anywhere on the same footing. -/
theorem Talk.alike_answered {f : Footing} (k : Talk) (hf : f.Under k.engine k.graph) (a : Answer) :
    (k.engine.runOf k.graph k.session (k.conversation.callOf a) k.engine.network).session.Alike
      (f.answered k.session a) := by
  rw [Engine.runOf, k.stands.hosts.registry, hf.maxSteps]
  exact ((Session.Alike.refl _).run hf.graph (Session.silent_of_callFree hf.callFree _)
    (fun _ => rfl) _ _ _).1

/-- The footing of the flow. -/
def askingFooting : Footing where
  graph := (Graph.ofText? (fun _ => .nil) .nil askingText).toOption.getD default
  maxSteps := 100

/-- The answer. -/
def ann : Answer where
  text := "Ann"
  clock := askingWorld.clock 1

/-- **The second run tells what the answer makes of the session** that it
has loaded. -/
theorem endings_answering {entries c : List String} {files : Files} {state : StateMap}
    {s : Session} (hc : Invocation.ofArguments c = .ok (.run (askedThen entries) "g.json"))
    (hgraph : files.read "g.json" = .ok askingText)
    (hstate : stateOn .empty entries = .ok state)
    (hloaded : resumedOf (askedThen entries) (laterWorld files).surroundings = .ok (some s))
    (hwaits : s.status = .awaitingInput)
    (hdone : (askingFooting.answered s ann).status = .completed) :
    endings (run c (laterWorld files)).lines =
      [.completed, .state (askingFooting.answered s ann).state] := by
  obtain ⟨src, hsrc, hvalid, -⟩ := exists_askingSource
  have hsettings : settingsOf (askedThen entries) (laterWorld files).surroundings = .ok {} := rfl
  have hsource : (laterWorld files).surroundings.read "g.json" = .ok askingText := hgraph
  have hentries : stateOn .empty (askedThen entries).state = .ok state := hstate
  obtain ⟨p, e, g, hopens, hset, hp⟩ := exists_opens_of_there hsettings hsource hloaded hsrc
    hentries rfl (by rw [hvalid]; rfl) ((laterWorld files).clock 0)
  obtain ⟨k, hk, rfl, hg, hengine, -, hquiet⟩ := hopens.exists_talk hp
  -- the conversation goes on in the graph of the flow
  have hflow : askingFooting.graph = .ofSource (fun _ => .nil) .nil src := by
    simp only [askingFooting, Graph.ofText?, hsrc]
    rfl
  obtain ⟨ids, hcompiled⟩ := hopens.compiled
  have hunder : askingFooting.Under k.engine k.graph := by
    rw [hg, hcompiled]
    refine ⟨?_, ?_, callFree_askingText (map_eq_ok_iff.2 ⟨src, hsrc, rfl⟩)⟩
    · rw [hflow]
      exact Graph.anonymous_ofSource ..
    · rw [hengine, hopens.settings, hset]
      rfl
  -- so the answer does to its session what it does anywhere
  have hran := k.alike_answered hunder ann
  have hanswers : (laterWorld files).answers (askedThen entries) = [ann] := rfl
  have hopen : k.session.status ≠ .completed := by rw [hwaits]; nofun
  have hturn : k.turn.afterAll [ann] =
      Turn.served k.engine k.graph k.session (k.conversation.callOf ann) k.conversation.seen := by
    rw [← k.stands.reply_eq hopen]
    rfl
  rw [run_eq hc, hanswers, hk.complete, Report.after, endings_append, hquiet, List.nil_append,
    hturn]
  obtain ⟨hstatus, -⟩ | ⟨-, ht⟩ | ⟨hstatus, -⟩ := Turn.served_cases k.engine k.graph k.session
    (k.conversation.callOf ann) k.conversation.seen
  · cases hstatus.symm.trans (hran.status.trans hdone)
  · rw [ht, Turn.complete, endings_append, endings_shownOf, List.nil_append, hran.state]
    rfl
  · cases hstatus.symm.trans (hran.status.trans hdone)

/-- A number that is not read as it is written. -/
def numberEntries : List String :=
  ["x=0.9142707877739566"]

/-- The run up to the question. -/
def numberPausing : List String :=
  ["--state", "x=0.9142707877739566", "--session-file", "p.json", "g.json"]

/-- The run with the answer. -/
def numberAtOnce : List String :=
  ["--state", "x=0.9142707877739566", "--input", "Ann", "g.json"]

/-- The run that goes on with the session. -/
def numberThen : List String :=
  ["--state", "x=0.9142707877739566", "--resume", "p.json", "--input", "Ann", "g.json"]

theorem numberEntries_understood : (stateOn .empty numberEntries).toOption.isSome := by
  decide +kernel

theorem ofArguments_numberPausing :
    Invocation.ofArguments numberPausing = .ok (.run (askedFirst numberEntries) "g.json") := by
  decide +kernel

theorem ofArguments_numberAtOnce :
    Invocation.ofArguments numberAtOnce = .ok (.run (askedAtOnce numberEntries) "g.json") := by
  decide +kernel

theorem ofArguments_numberThen :
    Invocation.ofArguments numberThen = .ok (.run (askedThen numberEntries) "g.json") := by
  decide +kernel

/-- The run pauses, and reading its session changes the number. -/
theorem numberPausing_pauses :
    Line.awaiting ∈ (run numberPausing askingWorld).lines ∧
      ∀ e ∈ (run numberPausing askingWorld).engine.sessions.sessions.entries,
        ((Session.decoder {} (Json.Raw.reread e.2.toJson)).toOption.map fun s =>
            let u := askingFooting.answered s ann
            (s.status, u.status, u.state.toJson.pretty)) =
          some (.awaitingInput, .completed,
            "\x7b\n  \"userResponse\": \"Ann\",\n  \"x\": 0.9142707877739568\n\x7d") := by
  decide +kernel

theorem numberAtOnce_ends :
    (endings (run numberAtOnce askingWorld).lines).map Line.text = ["Workflow completed.",
      "\x7b\n  \"userResponse\": \"Ann\",\n  \"x\": 0.9142707877739567\n\x7d"] := by
  decide +kernel

/-- **A number may change where a run is divided.** The run is divided at
its question, and the file of its session is accepted, but at the end the
number is another one than in the whole run. -/
theorem divided_run_changes_a_number :
    let whole := asking ofArguments_numberAtOnce askingWorld
    let first := asking ofArguments_numberPausing askingWorld
    let second := asking ofArguments_numberThen (laterWorld first.report.files)
    Divided whole first second "p.json" ∧
      (endings whole.report.lines).map Line.text = ["Workflow completed.",
        "\x7b\n  \"userResponse\": \"Ann\",\n  \"x\": 0.9142707877739567\n\x7d"] ∧
      (endings second.report.lines).map Line.text = ["Workflow completed.",
        "\x7b\n  \"userResponse\": \"Ann\",\n  \"x\": 0.9142707877739568\n\x7d"] := by
  intro whole first second
  obtain ⟨hpauses, hsessions⟩ := numberPausing_pauses
  obtain ⟨-, s, hkeeps, -, -, -, hwritten⟩ :=
    run_saves ofArguments_numberPausing rfl (.inl rfl) hpauses
  obtain ⟨t, ht, hparts⟩ := Option.map_eq_some_iff.1
    (hsessions _ (SortedMap.mem_of_find?_eq_some hkeeps.stored))
  simp only [Prod.mk.injEq] at hparts
  obtain ⟨hwaits, hdone, hstate⟩ := hparts
  have hread : Session.ofSaved? s.saved = .ok t :=
    (Session.ofSaved?_saved_eq_reread s).trans (toOption_eq_some_iff.1 ht)
  have hloaded : resumedOf (askedThen numberEntries)
      (laterWorld (run numberPausing askingWorld).files).surroundings = .ok (some t) :=
    resumedOf_laterWorld hread hwritten rfl
  obtain ⟨state, hentries⟩ := Option.isSome_iff_exists.1 numberEntries_understood
  have hgraph := (read_askingWorld hwritten).1
  have hends := endings_answering ofArguments_numberThen hgraph (toOption_eq_some_iff.1 hentries)
    hloaded hwaits hdone
  have hwhole : whole.report = run numberAtOnce askingWorld := rfl
  have hsecond : second.report =
      run numberThen (laterWorld (run numberPausing askingWorld).files) := rfl
  refine ⟨divided_asking _ _ _ hpauses ⟨t, hloaded⟩, ?_, ?_⟩
  · rw [hwhole]
    exact numberAtOnce_ends
  · rw [hsecond, hends]
    exact congrArg (fun text => ["Workflow completed.", text]) hstate

end CommandLine

end Flowchart
