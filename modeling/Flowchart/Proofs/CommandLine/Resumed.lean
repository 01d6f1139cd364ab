import Flowchart.CommandLine.Opening
import Flowchart.Proofs.Engine.Events
import Flowchart.Proofs.Engine.Rest
import Flowchart.Proofs.Files
import Flowchart.Proofs.Session.Saved

/-!
# Saved sessions are taken up again

An engine is reached by operations and calls, and by putting sessions
back that were saved before (`Engine.Reached`). The sessions that it
stores make proper documents and have no answer left (`Reached.savable`).
So a session that was saved is read as it was, and a later engine goes on
with it, just if it is shallow (`saved_sessions_resume`). Nothing keeps
sessions shallow, though: a state that can be read by itself can be too
deep for the session in which it stands (`nested_session_is_lost`).
-/

namespace Flowchart

namespace Engine

variable {e e' e₀ : Engine} {c : Call} {g : Graph} {s t : Session} {id : String}

/-! ## Engines that are reached -/

/-- No object in a document that the call brings has a key twice. -/
structure Call.Keyed (c : Call) : Prop where
  /-- None in the state of a new session has. -/
  state : ∀ m ∈ c.request.initialState, m.Keyed
  /-- None in the answer has. -/
  input : ∀ v ∈ c.request.input, v.Keyed

/-- **The engines that are reached** from engines without sessions. -/
inductive Reached : Engine → Prop where
  /-- There are no sessions yet. -/
  | fresh {e : Engine} (hempty : e.sessions.sessions = .empty)
    (hkeeps : e.registry.KeepsKeys) : Reached e
  /-- Something is done to flows. -/
  | operation {e : Engine} (h : Reached e) (op : Operation) : Reached (e.perform op)
  /-- A request is made. -/
  | call {e : Engine} {c : Call} (h : Reached e) (hc : c.Keyed) :
    Reached (e.execute c.request c.clock).2
  /-- A session that one engine has stored is saved, read and put back into another one. -/
  | restored {e e' : Engine} {id : String} {s t : Session} (h : Reached e) (h' : Reached e')
    (hs : e.sessions.find? id = some s) (hexact : s.toJson.Exact) (htimes : s.Timely)
    (hread : Session.ofSaved? s.saved = .ok t) :
    Reached { e' with sessions := (e'.sessions.put t).2 }

/-- **The stored sessions can be saved**: they make proper documents and
have no answer left. -/
structure Savable (e : Engine) : Prop where
  /-- The executors make proper documents. -/
  keeps : e.registry.KeepsKeys
  /-- So do the stored sessions, and none has an answer left. -/
  stored : ∀ id s, e.sessions.find? id = some s → s.Keyed ∧ s.input = none

theorem Savable.perform (h : e.Savable) (op : Operation) : (e.perform op).Savable := by
  refine ⟨?_, ?_⟩
  · rw [registry_perform]
    exact h.keeps
  · rw [sessions_perform]
    exact h.stored

/-- What a call runs makes proper documents. -/
theorem Runs.keyed (hruns : e.Runs c e₀ g s) (h : e.Savable) (hc : c.Keyed) : s.Keyed := by
  cases hruns with
  | opens =>
    refine Session.keyed_start ?_ ..
    cases hstate : c.request.initialState with
    | none => exact StateMap.keyed_empty
    | some m => exact hc.state m hstate
  | resumes _ hs => exact (h.stored _ _ hs).1

theorem Savable.execute (h : e.Savable) (hc : c.Keyed) :
    (e.execute c.request c.clock).2.Savable := by
  refine ⟨?_, stored_execute (P := fun _ s => s.Keyed ∧ s.input = none) h.stored ?_⟩
  · rw [(kept_execute e c).registry]
    exact h.keeps
  · intro e₀ g s hruns
    have hkeeps : e₀.registry.KeepsKeys := hruns.kept.registry ▸ h.keeps
    exact ⟨((hruns.keyed h hc).withInput hc.input).run hkeeps _ _,
      (Session.rested_run _ _ _ _).input⟩

/-- A session is put back. -/
theorem Savable.put (h : e.Savable) (hkeyed : s.Keyed) (hinput : s.input = none) :
    { e with sessions := (e.sessions.put s).2 }.Savable := by
  refine ⟨h.keeps, fun id t ht => ?_⟩
  change (e.sessions.put s).2.find? id = some t at ht
  cases hgate : e.sessions.gate.refusal e.sessions.gate.tried with
  | none =>
    rw [Session.Store.put_of_pass hgate, Session.Store.find?, SortedMap.find?_insert] at ht
    split at ht
    · obtain rfl := Option.some.inj ht
      exact ⟨hkeyed, hinput⟩
    · exact h.stored id t ht
  | some reason =>
    rw [Session.Store.put_of_refusal hgate] at ht
    exact h.stored id t ht

/-- **What is stored in an engine that is reached can be saved.** -/
theorem Reached.savable (h : e.Reached) : e.Savable := by
  induction h with
  | fresh hempty hkeeps =>
    refine ⟨hkeeps, fun id s hs => ?_⟩
    rw [Session.Store.find?, hempty] at hs
    cases hs
  | operation _ op ih => exact ih.perform op
  | call _ hc ih => exact ih.execute hc
  | restored _ _ hs hexact htimes hread ih ih' =>
    -- the session that was read is the one that was saved
    obtain ⟨hkeyed, hinput⟩ := ih.stored _ _ hs
    rw [Session.ofSaved?_saved hkeyed hinput htimes hexact] at hread
    split at hread
    · obtain rfl := Except.ok.inj hread
      exact ih'.put hkeyed hinput
    · cases hread

end Engine

namespace CommandLine

open Engine (Call Reached)

variable {s : Session} {p : Plan} {e : Engine} {w : Workflow} {c : Call}

/-- **A session that is put back is gone on with**: a call that names it
runs it. -/
theorem Plan.runs_firstTurn (hp : p.resumed = some s)
    (hgate : e.sessions.gate.refusal e.sessions.gate.tried = none)
    (hflow : e.flows.find? s.workflowId = some w) (hstatus : s.status ≠ .completed)
    (state : StateMap) (clock : Clock) (hc : c.Names s.id s.workflowId) :
    (p.firstTurn e state clock).engine.Runs c (p.firstTurn e state clock).engine w.graph s := by
  have hput := Session.Store.put_of_pass hgate s
  have hengine : (p.firstTurn e state clock).engine =
      { e with sessions := (e.sessions.put s).2 } := by
    simp only [firstTurn, hp, hput]
  rw [hengine]
  refine .resumes hc ?_ hstatus hflow
  change (e.sessions.put s).2.find? s.id = some s
  rw [hput, Session.Store.find?, SortedMap.find?_insert, if_pos rfl]

/-- **Saved sessions are taken up again if they are shallow, and only
then.** A session that is stored in an engine that is reached, whatever
its flow, the answers and the outside have been, is read from the text
that it is saved as, and so is the file to which it is written when a
later run asks for it; a session that is not shallow is refused as
unreadable. A run that has taken it up goes on with it as it was saved,
at the next answer. Its numbers and its points in time are to be read as
they are written. -/
theorem saved_sessions_resume (e : Engine) (he : e.Reached) (id : String)
    (hs : e.sessions.find? id = some s) (hexact : s.toJson.Exact) (htimes : s.Timely) :
    Session.ofSaved? s.saved = (if s.Shallow then .ok s else .error .unreadable) ∧
    (∀ (files : Files) (path : String) (o : Options) (surroundings : Surroundings),
      (files.write path s.saved).1 = .ok () → o.resume = some path →
      surroundings.read = (files.write path s.saved).2.read →
      resumedOf o surroundings =
        if s.Shallow then .ok (some s) else .error (.notASession path .unreadable)) ∧
    ∀ (p : Plan) (later : Engine) (w : Workflow) (state : StateMap) (clock : Clock) (c : Call),
      p.resumed = some s → later.sessions.gate.refusal later.sessions.gate.tried = none →
      later.flows.find? s.workflowId = some w → s.status ≠ .completed →
      c.Names s.id s.workflowId →
      let resumed := (p.firstTurn later state clock).engine
      resumed.Runs c resumed w.graph s := by
  obtain ⟨hkeyed, hinput⟩ := he.savable.stored id s hs
  have hread := Session.ofSaved?_saved hkeyed hinput htimes hexact
  refine ⟨hread, fun files path o surroundings hwritten ho hsurroundings => ?_,
    fun p later w state clock c hp hgate hflow hstatus hc =>
      Plan.runs_firstTurn hp hgate hflow hstatus state clock hc⟩
  have hfile : surroundings.read path = .ok s.saved := by
    rw [hsurroundings]
    exact Files.read_write hwritten
  by_cases hshallow : s.Shallow
  · simp only [resumedOf, ho, hfile, hread, if_pos hshallow]
  · simp only [resumedOf, ho, hfile, hread, if_neg hshallow]

/-! ## A state at the limit and one beyond it -/

/-- A sequence in a sequence, and so on. -/
def nested : Nat → Json
  | 0 => .array []
  | levels + 1 => .array [nested levels]

theorem keyed_nested (levels : Nat) : (nested levels).Keyed := by
  induction levels with
  | zero => trivial
  | succ levels ih => exact ⟨ih, trivial⟩

/-- A session of the flow that asks is opened with a nested value in its
state. -/
def nestedCall (levels : Nat) : Call where
  request := { workflowId := .nil, initialState := some (.ofEntries [("x", nested levels)]) }
  clock := { now := .epoch, stamp := "" }

/-- The engine that keeps the session. -/
def nestedEngine (levels : Nat) : Engine :=
  (Engine.askingEngine.execute (nestedCall levels).request (nestedCall levels).clock).2

theorem reached_nestedEngine (levels : Nat) : (nestedEngine levels).Reached := by
  refine .call (.fresh rfl Step.keepsKeys_builtIn) ⟨?_, nofun⟩
  rintro m ⟨⟩
  refine StateMap.keyed_ofEntries fun e he => ?_
  obtain rfl := List.mem_singleton.1 he
  exact keyed_nested levels

/-- What the engine has stored, if that is so. -/
theorem exists_of_nestedEngine (levels : Nat) (shallow : Bool)
    (h : ((nestedEngine levels).sessions.find? Engine.firstId).map (fun s => (s.id, s.workflowId,
      s.status, decide s.toJson.Exact, decide s.Timely, decide s.Shallow)) =
        some (Engine.firstId, .nil, .awaitingInput, true, true, shallow)) :
    ∃ s, (nestedEngine levels).sessions.find? Engine.firstId = some s ∧
      s.id = Engine.firstId ∧ s.workflowId = .nil ∧ s.status = .awaitingInput ∧
      s.toJson.Exact ∧ s.Timely ∧ (s.Shallow ↔ shallow = true) := by
  obtain ⟨s, hs, hparts⟩ := Option.map_eq_some_iff.1 h
  simp only [Prod.mk.injEq, decide_eq_true_eq] at hparts
  obtain ⟨hid, hflow, hstatus, hexact, htimes, rfl⟩ := hparts
  exact ⟨s, hs, hid, hflow, hstatus, hexact, htimes, decide_eq_true_iff.symm⟩

/-- The folder in which the runs work. -/
def runFolder : Files :=
  .ofTexts "run" []

/-- A later run is to go on with the file of the session. -/
def resumeOptions : Options where
  resume := some "session.json"

/-- What the later run finds. -/
def savedSurroundings (s : Session) : Surroundings where
  read := (runFolder.write "session.json" s.saved).2.read
  ids := .random 2

/-- What the later run has read. -/
def resumedPlan (s : Session) : Plan where
  settings := {}
  source := ""
  resumed := some s
  workflowId := .nil
  graph := Engine.askingGraph
  ids := .random 2

/-- The next answer. -/
def nestedAnswer : Call :=
  Engine.askingCall (some Engine.firstId) (some (.string "Ann")) .nil

/-- **At the limit the session is taken up again**, and the answer is
given to it. -/
theorem nested_session_resumes :
    ∃ s, (nestedEngine 124).sessions.find? Engine.firstId = some s ∧ s.status = .awaitingInput ∧
      Session.ofSaved? s.saved = .ok s ∧
      resumedOf resumeOptions (savedSurroundings s) = .ok (some s) ∧
      let resumed := ((resumedPlan s).firstTurn Engine.askingEngine .empty default).engine
      resumed.Runs nestedAnswer resumed Engine.askingGraph s := by
  obtain ⟨s, hs, hid, hflow, hstatus, hexact, htimes, hshallow⟩ :=
    exists_of_nestedEngine 124 true (by decide +kernel)
  obtain ⟨hread, hresumed, hruns⟩ := saved_sessions_resume (nestedEngine 124)
    (reached_nestedEngine 124) Engine.firstId hs hexact htimes
  have hwritten : (runFolder.write "session.json" s.saved).1 = .ok () := rfl
  rw [if_pos (hshallow.2 rfl)] at hread
  obtain ⟨w, hw, hgraph⟩ : ∃ w, Engine.askingEngine.flows.find? .nil = some w ∧
      w.graph = Engine.askingGraph :=
    Option.map_eq_some_iff.1 (by decide +kernel)
  refine ⟨s, hs, hstatus, hread, ?_, ?_⟩
  · rw [hresumed runFolder "session.json" resumeOptions (savedSurroundings s) hwritten rfl rfl,
      if_pos (hshallow.2 rfl)]
  · have hopen : s.status ≠ .completed := by rw [hstatus]; nofun
    have hgate : Engine.askingEngine.sessions.gate.refusal
        Engine.askingEngine.sessions.gate.tried = none := rfl
    have hnames : nestedAnswer.Names s.id s.workflowId := by
      rw [hid, hflow]
      exact ⟨rfl, rfl⟩
    exact hgraph ▸ hruns (resumedPlan s) Engine.askingEngine w .empty default nestedAnswer rfl
      hgate (hflow ▸ hw) hopen hnames

/-- **One level beyond it the session is lost.** The state is read by
itself, and the session waits for an answer, but what it is saved as is
not read. -/
theorem nested_session_is_lost :
    (nestedEngine 125).Reached ∧ Json.ofText? (nested 125).compact = some (nested 125) ∧
      ∃ s, (nestedEngine 125).sessions.find? Engine.firstId = some s ∧
        s.status = .awaitingInput ∧ s.toJson.Exact ∧ s.Timely ∧
        Session.ofSaved? s.saved = .error .unreadable := by
  obtain ⟨s, hs, hid, hflow, hstatus, hexact, htimes, hshallow⟩ :=
    exists_of_nestedEngine 125 false (by decide +kernel)
  refine ⟨reached_nestedEngine 125, ?_, s, hs, hstatus, hexact, htimes, ?_⟩
  · exact Json.ofText?_compact_of_exact (keyed_nested 125) (by decide +kernel) (by decide +kernel)
  · obtain ⟨hkeyed, hinput⟩ := (reached_nestedEngine 125).savable.stored _ s hs
    rw [Session.ofSaved?_saved hkeyed hinput htimes hexact, if_neg (hshallow.not.2 nofun)]

end CommandLine

end Flowchart
