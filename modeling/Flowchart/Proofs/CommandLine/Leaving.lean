import Flowchart.Proofs.CommandLine.Opening

/-!
# Leaving a session that waits

A run that says that no answer is left leaves one session pending. If it
has run the session, because it has started it or because there was an
answer, the file of the session holds it (`awaiting_means_saved`), and a
later run takes it up from there. If it has only loaded the session, it
writes nothing: the session is then in the file from which it was loaded,
but not in another file that it was to be saved to
(`loaded_session_is_not_saved`).
-/

namespace Flowchart

namespace CommandLine

variable {o : Options} {path target : String} {around : Surroundings} {clock : Clock} {w : World}
  {t : Turn} {c : Conversation} {s : Session} {files : Files} {arguments : List String}

/-! ## Sessions that were run -/

/-- The session that the turn leaves waiting was run. -/
def Turn.Moved (t : Turn) : Prop :=
  ∀ c, t.standing = .waits c → c.moved = true

namespace Turn

theorem moved_ofRequest (e : Engine) (seen : Nat) (r : Engine.Request) (clock : Clock) :
    (Turn.ofRequest e seen r clock).Moved := by
  intro c hc
  simp only [ofRequest, ofResponse] at hc
  split at hc
  · split at hc <;> cases hc
  · obtain rfl := Standing.waits.inj hc
    rfl

theorem Moved.after (h : t.Moved) (lines : List Line) : (t.after lines).Moved :=
  h

/-- Answers leave a session that was run. -/
theorem Moved.afterAll (h : t.Moved) (answers : List Answer) : (t.afterAll answers).Moved := by
  induction answers generalizing t with
  | nil => exact h
  | cons a answers ih =>
    cases hstanding : t.standing with
    | ended success =>
      rw [afterAll_of_ended hstanding]
      exact h
    | waits c =>
      rw [afterAll_cons hstanding]
      exact (ih (moved_ofRequest _ _ _ _)).after _

/-- **An answer is enough** for the session to be run. -/
theorem moved_afterAll {answers : List Answer} (h : answers ≠ []) (t : Turn) :
    (t.afterAll answers).Moved := by
  obtain ⟨a, answers, rfl⟩ := List.exists_cons_of_ne_nil h
  cases hstanding : t.standing with
  | ended success =>
    rw [afterAll_of_ended hstanding]
    exact fun c hc => nomatch hstanding.symm.trans hc
  | waits c =>
    rw [afterAll_cons hstanding]
    exact ((moved_ofRequest _ _ _ _).afterAll answers).after _

end Turn

/-- If no session was read, none was asked for. -/
theorem resume_of_resumedOf (h : resumedOf o around = .ok none) : o.resume = none := by
  unfold resumedOf at h
  split at h
  · next hnone => exact hnone
  · split at h <;> try cases h
    split at h <;> cases h

/-- **How the first turn comes to wait**: it has run the session that it
has started, or it has put one back that it has not run. -/
theorem opening_waits (h : (opening o path around clock).standing = .waits c) :
    (o.resume = none ∧ c.moved = true) ∨
    ∃ s g, resumedOf o around = .ok (some s) ∧ c.moved = false ∧
      c.Stands (opening o path around clock).engine g s := by
  obtain ⟨⟨⟨success, hended⟩, -, -⟩, -⟩ | ⟨p, src, e, g, state, -, -, hopens⟩ :=
    opening_cases o path around clock
  · cases hended.symm.trans h
  · have hresumed := hopens.reads.resumed
    cases hp : p.resumed with
    | none =>
      rw [hopens.opening_eq] at h
      have hmoved : (p.firstTurn e state clock).Moved := by
        simp only [Plan.firstTurn, hp]
        exact Turn.moved_ofRequest _ _ _ _
      exact .inl ⟨resume_of_resumedOf (hp ▸ hresumed), hmoved c h⟩
    | some s =>
      rw [hp] at hresumed
      obtain ⟨c', hc', hloaded, hstands, -⟩ := hopens.of_resumed hp
      obtain rfl := Standing.waits.inj (hc'.symm.trans h)
      exact .inr ⟨s, g, hresumed, hloaded, hstands⟩

/-! ## What is left -/

namespace Turn

/-- **A session that was only loaded** is not written. -/
theorem complete_of_loaded (h : t.standing = .waits c) (hmoved : c.moved = false)
    (target : Option String) (files : Files) :
    t.complete target files [] = {
      exit := 0, lines := t.lines ++ [.awaiting], files, engine := t.engine } := by
  rw [complete, h]
  cases target with
  | none => rfl
  | some path =>
    simp only [Conversation.leave, Conversation.toSave, hmoved]
    rfl

/-- **A session that was run** is written, unless the file cannot be
written. -/
theorem complete_of_moved (h : t.standing = .waits c) (hmoved : c.moved = true)
    (hs : t.engine.sessions.find? c.sessionId = some s) (target : String) (files : Files) :
    t.complete (some target) files [] =
      match files.write target s.saved with
      | (.ok (), files) => {
        exit := 0, lines := t.lines ++ [.awaiting], files, engine := t.engine }
      | (.error fault, files) => {
        exit := 1, lines := t.lines ++ [.refusal (.unsaved target fault)], files
        engine := t.engine } := by
  rw [complete, h]
  simp only [Conversation.leave, Conversation.toSave, hmoved, if_true, hs]
  rcases files.write target s.saved with ⟨_ | _, files'⟩ <;> rfl

/-- A run says that no answer is left only while a session waits for one. -/
theorem Sound.exists_waits (h : t.Sound) {target : Option String}
    (hawaiting : Line.awaiting ∈ (t.complete target files []).lines) :
    ∃ c g s, t.standing = .waits c ∧ c.Stands t.engine g s := by
  cases hstanding : t.standing with
  | ended success =>
    rw [complete, hstanding] at hawaiting
    exact absurd hawaiting h.silent
  | waits c =>
    obtain ⟨-, g, s, hstands⟩ := h.waits c hstanding
    exact ⟨c, g, s, rfl, hstands⟩

/-- **A session that was run is saved** when no answer is left. -/
theorem Sound.saved (h : t.Sound) (hmoved : t.Moved)
    (hawaiting : Line.awaiting ∈ (t.complete (some target) files []).lines) :
    let r := t.complete (some target) files []
    r.exit = 0 ∧ ∃ s, r.engine.KeepsOnly s ∧ s.Keyed ∧ s.input = none ∧ s.status = .awaitingInput ∧
      files.write target s.saved = (.ok (), r.files) := by
  obtain ⟨c, g, s, hstanding, hstands⟩ := h.exists_waits hawaiting
  obtain ⟨hinput, hwaits⟩ := hstands.rests (hmoved c hstanding)
  have hcomplete := complete_of_moved hstanding (hmoved c hstanding) hstands.stored target files
  rcases hwritten : files.write target s.saved with ⟨_ | _, files'⟩ <;>
    rw [hwritten] at hcomplete <;> rw [hcomplete] at hawaiting ⊢
  · -- a run that cannot write the file says so instead
    rcases List.mem_append.1 hawaiting with hmem | hmem
    · exact absurd hmem h.silent
    · simp at hmem
  · exact ⟨rfl, s, hstands.keepsOnly, hstands.keyed, hinput, hwaits, hwritten⟩

end Turn

/-- A run from its arguments. -/
theorem run_eq (h : Invocation.ofArguments arguments = .ok (.run o path)) (w : World) :
    run arguments w = ((opening o path w.surroundings (w.clock 0)).afterAll
      (w.answers o)).complete o.sessionFile w.files [] := by
  rw [run, h]
  exact Turn.complete_eq ..

/-- The last turn of a run is sound. -/
theorem sound_last (o : Options) (path : String) (w : World) :
    ((opening o path w.surroundings (w.clock 0)).afterAll (w.answers o)).Sound :=
  (sound_opening o path w.surroundings (w.clock 0)).afterAll (w.answers o)

/-- **A session that is started or answered is run.** -/
theorem moved_last (path : String) {w : World} (h : o.resume = none ∨ w.answers o ≠ []) :
    ((opening o path w.surroundings (w.clock 0)).afterAll (w.answers o)).Moved := by
  rcases h with hnew | hanswers
  · refine Turn.Moved.afterAll (fun c hc => ?_) _
    obtain ⟨-, hmoved⟩ | ⟨s, g, hresumed, -⟩ := opening_waits hc
    · exact hmoved
    · rw [resumedOf, hnew] at hresumed
      cases hresumed
  · exact Turn.moved_afterAll hanswers _

/-- **A run that has run its session saves it** when no answer is left. -/
theorem run_saves (hparsed : Invocation.ofArguments arguments = .ok (.run o path))
    (htarget : o.sessionFile = some target) (hran : o.resume = none ∨ w.answers o ≠ [])
    (hawaiting : Line.awaiting ∈ (run arguments w).lines) :
    let r := run arguments w
    r.exit = 0 ∧ ∃ s, r.engine.KeepsOnly s ∧ s.Keyed ∧ s.input = none ∧ s.status = .awaitingInput ∧
      w.files.write target s.saved = (.ok (), r.files) := by
  intro r
  have hrun : r = _ := run_eq hparsed w
  replace hawaiting : Line.awaiting ∈ r.lines := hawaiting
  rw [htarget] at hrun
  rw [hrun] at hawaiting ⊢
  exact (sound_last o path w).saved (moved_last path hran) hawaiting

/-- What is loaded is what the text of the file says. -/
theorem resumedOf_eq_some_iff {around : Surroundings} {text : String}
    (ho : o.resume = some target) (hfile : around.read target = .ok text) :
    resumedOf o around = .ok (some s) ↔ Session.ofSaved? text = .ok s := by
  simp only [resumedOf, ho, hfile]
  cases Session.ofSaved? text with
  | error mismatch => simp
  | ok t => simp

/-- A shallow session is read from the text that it is saved as, if what
it names is read as it is written. -/
theorem ofSaved?_of_shallow (hkeyed : s.Keyed) (hinput : s.input = none) (hexact : s.toJson.Exact)
    (htimes : s.Timely) (hshallow : s.Shallow) : Session.ofSaved? s.saved = .ok s := by
  rw [Session.ofSaved?_saved hkeyed hinput htimes hexact, if_pos hshallow]

/-- **No answer is left, so the session is saved.** A run that says so,
with a file for the session, leaves one session. If it has started the
session, or has had an answer for the one that it has loaded, then this
session waits for an answer and the file holds it. A later run that asks
for the file takes the session up as it is, and its first turn is about
it; the session is to be shallow, and its numbers and its points in time
are to be read as they are written. If the run has loaded the session and
has had no answer, the session is still the one of the file that it was
loaded from, and no file has changed. -/
theorem awaiting_means_saved (hparsed : Invocation.ofArguments arguments = .ok (.run o path))
    (htarget : o.sessionFile = some target)
    (hawaiting : Line.awaiting ∈ (run arguments w).lines) :
    let r := run arguments w
    r.exit = 0 ∧ ∃ s, r.engine.KeepsOnly s ∧
      (o.resume = none ∨ w.answers o ≠ [] →
        s.status = .awaitingInput ∧ r.files.read target = .ok s.saved ∧
        (s.toJson.Exact → s.Timely → s.Shallow →
          ∀ (later : Options) (around : Surroundings), later.resume = some target →
            around.read target = r.files.read target →
            resumedOf later around = .ok (some s) ∧
            ∀ path clock c, (opening later path around clock).standing = .waits c →
              ∃ g, c.Stands (opening later path around clock).engine g s)) ∧
      (o.resume ≠ none → w.answers o = [] →
        r.files = w.files ∧ resumedOf o w.surroundings = .ok (some s)) := by
  intro r
  by_cases hran : o.resume = none ∨ w.answers o ≠ []
  · obtain ⟨hexit, s, hkeeps, hkeyed, hinput, hwaits, hwritten⟩ :=
      run_saves hparsed htarget hran hawaiting
    have hfile := Files.read_of_write hwritten
    refine ⟨hexit, s, hkeeps, fun _ => ⟨hwaits, hfile, ?_⟩, ?_⟩
    · intro hexact htimes hshallow later around hlater hsame
      have hresumed := (resumedOf_eq_some_iff hlater (hsame.trans hfile)).2
        (ofSaved?_of_shallow hkeyed hinput hexact htimes hshallow)
      refine ⟨hresumed, fun path clock c hc => ?_⟩
      obtain ⟨hnone, -⟩ | ⟨s', g, hresumed', -, hstands⟩ := opening_waits hc
      · cases hlater.symm.trans hnone
      · obtain rfl := Option.some.inj (Except.ok.inj (hresumed.symm.trans hresumed'))
        exact ⟨g, hstands⟩
    · intro hresume hanswers
      rcases hran with hnew | hanswered
      · exact absurd hnew hresume
      · exact absurd hanswers hanswered
  · obtain ⟨hresume, hanswers⟩ := not_or.1 hran
    replace hanswers := not_not.1 hanswers
    have hrun : r = _ := run_eq hparsed w
    have hsound := sound_last o path w
    rw [htarget, hanswers] at hrun
    rw [hanswers] at hsound
    replace hawaiting : Line.awaiting ∈ r.lines := hawaiting
    rw [hrun] at hawaiting
    obtain ⟨c, -, -, hstanding, -⟩ := hsound.exists_waits hawaiting
    obtain ⟨hnone, -⟩ | ⟨s, g, hresumed, hloaded, hstands⟩ := opening_waits hstanding
    · exact absurd hnone hresume
    · rw [Turn.complete_of_loaded hstanding hloaded] at hrun
      rw [hrun]
      exact ⟨rfl, s, hstands.keepsOnly, fun h => absurd h hran,
        fun _ _ => ⟨rfl, hresumed⟩⟩

/-! ## A run that pauses -/

/-- A flow that asks for a name. -/
def askingText : String :=
  "\x7b\"s\":\x7b\"type\":\"StartNode\",\"to\":[\x7b\"id\":\"q\"\x7d]\x7d," ++
  "\"q\":\x7b\"type\":\"QuestionNode\",\"promptText\":\"Name?\"," ++
  "\"to\":[\x7b\"id\":\"e\"\x7d]\x7d,\"e\":\x7b\"type\":\"EndNode\"\x7d\x7d"

/-- A folder that holds the flow and some files more. -/
def askingWorld : World where
  files := .ofTexts "run" [("g.json", askingText)]
  ids := .random 1
  clock := fun _ => { now := .epoch, stamp := "" }

/-- The flow is run, and its session is saved. -/
def pausing : List String :=
  ["--session-file", "p.json", "g.json"]

theorem ofArguments_pausing : Invocation.ofArguments pausing =
    .ok (.run { graph := some "g.json", sessionFile := some "p.json" } "g.json") := by
  decide +kernel

/-- **The run pauses** with a shallow session that is read as it is
written. -/
theorem pausing_pauses :
    Line.awaiting ∈ (run pausing askingWorld).lines ∧
      ∀ e ∈ (run pausing askingWorld).engine.sessions.sessions.entries,
        e.2.toJson.Exact ∧ e.2.Timely ∧ e.2.Shallow := by
  decide +kernel

/-- The session that the run has left, and its file. -/
theorem pausing_saves :
    ∃ s, (run pausing askingWorld).engine.KeepsOnly s ∧ s.status = .awaitingInput ∧
      s.toJson.Exact ∧ Session.ofSaved? s.saved = .ok s ∧
      askingWorld.files.write "p.json" s.saved = (.ok (), (run pausing askingWorld).files) := by
  obtain ⟨hawaiting, hsessions⟩ := pausing_pauses
  obtain ⟨-, s, hkeeps, hkeyed, hinput, hwaits, hwritten⟩ :=
    run_saves ofArguments_pausing rfl (.inl rfl) hawaiting
  obtain ⟨hexact, htimes, hshallow⟩ := hsessions _ (SortedMap.mem_of_find?_eq_some hkeeps.stored)
  exact ⟨s, hkeeps, hwaits, hexact, ofSaved?_of_shallow hkeyed hinput hexact htimes hshallow,
    hwritten⟩

/-- **The file that the run saves is one to go on with.** -/
theorem pausing_is_saved :
    Line.awaiting ∈ (run pausing askingWorld).lines ∧ (run pausing askingWorld).exit = 0 ∧
      ∃ s, (run pausing askingWorld).files.read "p.json" = .ok s.saved ∧
        ∀ (later : Options) (around : Surroundings), later.resume = some "p.json" →
          around.read "p.json" = (run pausing askingWorld).files.read "p.json" →
          resumedOf later around = .ok (some s) := by
  obtain ⟨hawaiting, hsessions⟩ := pausing_pauses
  obtain ⟨hexit, s, hkeeps, hsaved, -⟩ := awaiting_means_saved ofArguments_pausing rfl hawaiting
  obtain ⟨-, hfile, hlater⟩ := hsaved (.inl rfl)
  obtain ⟨hexact, htimes, hshallow⟩ := hsessions _ (SortedMap.mem_of_find?_eq_some hkeeps.stored)
  refine ⟨hawaiting, hexit, s, hfile, fun later around hresume hsame => ?_⟩
  exact (hlater hexact htimes hshallow later around hresume hsame).1

/-- A folder with other files. -/
def laterWorld (files : Files) : World :=
  { askingWorld with files }

/-- What is there once a text was saved. -/
theorem read_askingWorld {text : String}
    (h : askingWorld.files.write "p.json" text = (.ok (), files)) :
    files.read "g.json" = .ok askingText ∧ files.read "q.json" = .error .missing := by
  obtain rfl : (askingWorld.files.write "p.json" text).2 = files := congrArg Prod.snd h
  exact ⟨rfl, rfl⟩

/-- A session that was saved there is loaded. -/
theorem resumedOf_laterWorld {text : String} (hread : Session.ofSaved? text = .ok s)
    (hwritten : askingWorld.files.write "p.json" text = (.ok (), files))
    (ho : o.resume = some "p.json") :
    resumedOf o (laterWorld files).surroundings = .ok (some s) :=
  (resumedOf_eq_some_iff ho (Files.read_of_write hwritten)).2 hread

/-- The session is loaded, and is to be saved to another file. -/
def reloading : List String :=
  ["--resume", "p.json", "--session-file", "q.json", "g.json"]

/-- What these arguments ask for. -/
def reloadingOptions : Options where
  graph := some "g.json"
  resume := some "p.json"
  sessionFile := some "q.json"

theorem ofArguments_reloading :
    Invocation.ofArguments reloading = .ok (.run reloadingOptions "g.json") := by
  decide +kernel

/-- The flow is read, it is valid, and its steps send no requests. -/
theorem exists_askingSource :
    ∃ src, Source.ofText? askingText = .ok src ∧
      (Graph.ofSource (fun _ => .nil) .nil src).validate.isValid = true ∧
      (Graph.ofSource (fun _ => .nil) .nil src).CallFree := by
  obtain ⟨src, hsrc, hvalid⟩ := Option.map_eq_some_iff.1 (show
    (Source.ofText? askingText).toOption.map (fun src =>
      let g := Graph.ofSource (fun _ => .nil) .nil src
      (g.validate.isValid, decide g.CallFree)) = some (true, true) by decide +kernel)
  simp only [Prod.mk.injEq, decide_eq_true_eq] at hvalid
  exact ⟨src, toOption_eq_some_iff.1 hsrc, hvalid⟩

/-- The session is loaded and left alone. -/
theorem reloading_loads (hread : Session.ofSaved? s.saved = .ok s)
    (hwritten : askingWorld.files.write "p.json" s.saved = (.ok (), files)) :
    let r := run reloading (laterWorld files)
    r.exit = 0 ∧ Line.awaiting ∈ r.lines ∧ r.engine.KeepsOnly s ∧ r.files = files := by
  have hresumed : resumedOf reloadingOptions (laterWorld files).surroundings = .ok (some s) :=
    resumedOf_laterWorld hread hwritten rfl
  have hsource : (laterWorld files).surroundings.read "g.json" = .ok askingText :=
    (read_askingWorld hwritten).1
  obtain ⟨src, hsrc, hvalid, -⟩ := exists_askingSource
  have hsettings : settingsOf reloadingOptions (laterWorld files).surroundings = .ok {} := rfl
  have hstate : stateOn .empty reloadingOptions.state = .ok .empty := rfl
  obtain ⟨p, e, g, hopens, -, hp⟩ := exists_opens_of_there hsettings hsource hresumed hsrc hstate
    rfl (by rw [hvalid]; rfl) ((laterWorld files).clock 0)
  obtain ⟨c, hc, hloaded, hstands, -⟩ := hopens.of_resumed hp
  have hanswers : (laterWorld files).answers reloadingOptions = [] := rfl
  intro r
  have hrun : r = _ := run_eq ofArguments_reloading (laterWorld files)
  rw [hanswers, Turn.afterAll, Turn.complete_of_loaded hc hloaded] at hrun
  rw [hrun]
  exact ⟨rfl, by simp, hstands.keepsOnly, rfl⟩

/-- **A session that was only loaded is not saved.** The run says that no
answer is left, and its session waits, but there is no file that holds
it. -/
theorem loaded_session_is_not_saved :
    let r := run reloading (laterWorld (run pausing askingWorld).files)
    r.exit = 0 ∧ Line.awaiting ∈ r.lines ∧ (∃ s, r.engine.KeepsOnly s ∧ s.status = .awaitingInput) ∧
      r.files.read "q.json" = .error .missing := by
  obtain ⟨s, -, hwaits, -, hread, hwritten⟩ := pausing_saves
  obtain ⟨hexit, hawaiting, hkeeps, hfiles⟩ := reloading_loads hread hwritten
  refine ⟨hexit, hawaiting, ⟨s, hkeeps, hwaits⟩, ?_⟩
  rw [hfiles]
  exact (read_askingWorld hwritten).2

end CommandLine

end Flowchart
