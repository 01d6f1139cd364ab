import Flowchart.Proofs.Engine.Calls
import Flowchart.Proofs.Session.Outside
import Mathlib.Data.List.Induction
import Mathlib.Data.List.Nodup

/-!
# Sessions do not meet

An engine serves any number of sessions, and calls for them come in any
order. Each stored session is nevertheless what the calls make of it that
are its own: the one that opened it and those that name it and its flow
(`alone?`). `Mirrors` states this of an engine after some calls and
`mirrors_concat` carries it over one call more; the graphs hold no call
nodes, so that the sessions do not meet outside either.
-/

namespace Flowchart

namespace Engine

/-! ## A session by itself -/

/-- A session by itself takes one run for each call, in front of an empty
outside, until it is completed. -/
def proceed (e : Engine) (g : Graph) (s : Session) (c : Call) : Session :=
  if s.status = .completed then s else (e.runOf g s c {}).session

/-- The session that gets an identifier, by itself: the call that draws
the identifier opens it, and of the calls after that those count which
name it and its flow. `drawn` is how many identifiers were drawn before. -/
def aloneFrom? (e : Engine) (id : String) : (drawn : Nat) → List Call → Option Session
  | _, [] => none
  | drawn, c :: calls =>
    match e.opening? c.request with
    | none => aloneFrom? e id drawn calls
    | some (g, node) =>
      if (e.ids.ahead drawn).toText = id then
        some ((c :: calls.filter (·.Names id c.request.workflowId)).foldl (e.proceed g)
          (e.opened id node c))
      else aloneFrom? e id (drawn + 1) calls

/-- The session that gets an identifier in some calls, by itself. -/
def alone? (e : Engine) (id : String) (calls : List Call) : Option Session :=
  e.aloneFrom? id 0 calls

/-- How many of some calls open a session. -/
def openings (e : Engine) (calls : List Call) : Nat :=
  calls.countP fun c => (e.opening? c.request).isSome

/-- The identifiers of the sessions that some calls open. -/
def drawnIds (e : Engine) (calls : List Call) : List String :=
  (List.range (e.openings calls)).map fun k => (e.ids.ahead k).toText

/-- The graph of a flow, empty if there is none. -/
def graphFor (e : Engine) (workflowId : Uuid) : Graph :=
  ((e.flows.find? workflowId).map (·.graph)).getD {}

variable {e : Engine} {c : Call} {calls : List Call} {g : Graph} {node : Graph.Node}
variable {s : Session} {id : String} {k : Nat}

/-- A request that opens a session names none, and its flow is stored. -/
theorem of_opening? {r : Request} (h : e.opening? r = some (g, node)) :
    r.sessionId = none ∧ ∃ w, e.flows.find? r.workflowId = some w ∧ w.graph = g := by
  unfold opening? at h
  split at h
  · cases h
  · next hid =>
    obtain ⟨w, hw, hst⟩ := Option.bind_eq_some_iff.1 h
    obtain ⟨m, -, hp⟩ := Option.map_eq_some_iff.1 hst
    exact ⟨hid, w, hw, (Prod.mk.inj hp).1⟩

theorem graphFor_of_opening? {r : Request} (h : e.opening? r = some (g, node)) :
    e.graphFor r.workflowId = g := by
  obtain ⟨-, w, hw, rfl⟩ := of_opening? h
  rw [graphFor, hw]
  rfl

theorem continues_proceed (e : Engine) (g : Graph) (s : Session) (c : Call) :
    Session.Continues s (e.proceed g s c) := by
  unfold proceed
  split
  · exact .refl s
  · have h := Session.continues_run { graph := g, registry := e.registry, clock := c.clock }
      e.settings.maxSteps { s with input := c.request.input } {}
    exact ⟨h.id, h.workflowId, h.userId, h.createdAt, h.history⟩

theorem continues_foldl_proceed (e : Engine) (g : Graph) (calls : List Call) (s : Session) :
    Session.Continues s (calls.foldl (e.proceed g) s) := by
  induction calls generalizing s with
  | nil => exact .refl s
  | cons c calls ih => exact (continues_proceed e g s c).trans (ih _)

theorem openings_cons :
    e.openings (c :: calls) = e.openings calls + if (e.opening? c.request).isSome then 1 else 0 :=
  List.countP_cons

theorem openings_concat :
    e.openings (calls ++ [c]) =
      e.openings calls + if (e.opening? c.request).isSome then 1 else 0 := by
  rw [openings, List.countP_append, List.countP_singleton]
  rfl

/-- **What a session by itself has**: the identifier that was drawn for
it, and a flow that is stored. -/
theorem of_aloneFrom? (h : e.aloneFrom? id k calls = some s) :
    s.id = id ∧ (∃ w, e.flows.find? s.workflowId = some w) ∧
      ∃ j < e.openings calls, (e.ids.ahead (k + j)).toText = id := by
  induction calls generalizing k with
  | nil => cases h
  | cons c calls ih =>
    rw [openings_cons]
    unfold aloneFrom? at h
    cases hopen : e.opening? c.request with
    | none =>
      rw [hopen] at h
      simpa using ih h
    | some p =>
      obtain ⟨g, node⟩ := p
      simp only [hopen] at h
      split at h
      · next hid =>
        obtain rfl := Option.some.inj h
        have hc := continues_foldl_proceed e g
          (c :: calls.filter (·.Names id c.request.workflowId)) (e.opened id node c)
        obtain ⟨-, w, hw, -⟩ := of_opening? hopen
        refine ⟨hc.id, ⟨w, ?_⟩, 0, by simp, by simpa using hid⟩
        rw [hc.workflowId]
        exact hw
      · obtain ⟨hid, hw, j, hj, hdrawn⟩ := ih h
        refine ⟨hid, hw, j + 1, by simpa using hj, ?_⟩
        rwa [Nat.add_assoc, Nat.add_comm 1 j] at hdrawn

/-- **One call more, seen by a session alone.** One that is open takes
the call if it is named, and one that was not there may be opened. -/
theorem aloneFrom?_concat (e : Engine) (id : String) (k : Nat) (calls : List Call) (c : Call) :
    e.aloneFrom? id k (calls ++ [c]) =
      match e.aloneFrom? id k calls with
      | some s => some (if c.Names id s.workflowId then e.proceed (e.graphFor s.workflowId) s c
          else s)
      | none => e.aloneFrom? id (k + e.openings calls) [c] := by
  induction calls generalizing k with
  | nil => rfl
  | cons d calls ih =>
    rw [List.cons_append, aloneFrom?, openings_cons]
    conv => rhs; rw [aloneFrom?]
    cases hopen : e.opening? d.request with
    | none => simpa using ih k
    | some p =>
      obtain ⟨g, node⟩ := p
      simp only [Option.isSome_some, if_true]
      by_cases hid : (e.ids.ahead k).toText = id
      · have hc := continues_foldl_proceed e g
          (d :: calls.filter (·.Names id d.request.workflowId)) (e.opened id node d)
        have hflow : ((d :: calls.filter (·.Names id d.request.workflowId)).foldl (e.proceed g)
            (e.opened id node d)).workflowId = d.request.workflowId := hc.workflowId
        simp only [if_pos hid, hflow, graphFor_of_opening? hopen, List.filter_append]
        by_cases hn : c.Names id d.request.workflowId
        · simp [hn]
        · simp [hn]
      · rw [if_neg hid, if_neg hid, ih (k + 1)]
        rw [Nat.add_assoc, Nat.add_comm 1 (e.openings calls)]

theorem alone?_concat (e : Engine) (id : String) (calls : List Call) (c : Call) :
    e.alone? id (calls ++ [c]) =
      match e.alone? id calls with
      | some s => some (if c.Names id s.workflowId then e.proceed (e.graphFor s.workflowId) s c
          else s)
      | none => e.aloneFrom? id (e.openings calls) [c] := by
  rw [alone?, aloneFrom?_concat, Nat.zero_add]
  rfl

/-- A session that is completed takes no call any more. -/
theorem alone?_append_of_completed (h : e.alone? id calls = some s) (hc : s.status = .completed)
    (later : List Call) : e.alone? id (calls ++ later) = some s := by
  induction later using List.reverseRecOn with
  | nil => simpa using h
  | append_singleton later c ih =>
    rw [← List.append_assoc, alone?_concat, ih]
    simp [proceed, hc]

/-! ## The engine mirrors them all -/

/-- After some calls every stored session is the one by itself. -/
structure Mirrors (e : Engine) (calls : List Call) : Prop where
  /-- Flows, executors and settings have stayed. -/
  kept : Kept e (e.after calls)
  /-- Every opening has drawn one identifier. -/
  drawn : (e.after calls).ids.drawn = e.ids.drawn + e.openings calls
  /-- The store refuses nothing. -/
  gate : (e.after calls).sessions.Open
  /-- The sessions are those by themselves. -/
  find? : ∀ id, (e.after calls).sessions.find? id = e.alone? id calls

/-- Before the first call there is no session, stored or alone. -/
theorem mirrors_nil (hempty : e.sessions = {}) : Mirrors e [] where
  kept := .refl e
  drawn := rfl
  gate := by rw [after_nil, hempty]; exact fun _ => rfl
  find? id := by rw [after_nil, hempty]; rfl

/-- The identifier that is drawn next was drawn for none of the sessions
that are there. -/
theorem alone?_next_eq_none (hopen : (e.opening? c.request).isSome)
    (hids : (e.drawnIds (calls ++ [c])).Nodup) :
    e.alone? (e.ids.ahead (e.openings calls)).toText calls = none := by
  by_contra hne
  obtain ⟨s, hs⟩ := Option.ne_none_iff_exists'.1 hne
  obtain ⟨-, -, j, hj, hdrawn⟩ := of_aloneFrom? hs
  rw [Nat.zero_add] at hdrawn
  have hlast : e.openings calls < e.openings (calls ++ [c]) := by
    rw [openings_concat, if_pos hopen]
    omega
  -- the session was opened before, by a drawing that this one would repeat
  have hsame : j = e.openings calls :=
    List.inj_on_of_nodup_map hids (List.mem_range.2 (by omega)) (List.mem_range.2 hlast) hdrawn
  omega

/-- In a flow without calls an engine runs a session as it runs alone. -/
theorem runOf_session_eq (hreg : e.registry = .builtIn) (hfree : g.CallFree) (s : Session)
    (c : Call) (n m : Web.Network) :
    (e.runOf g s c n).session = (e.runOf g s c m).session := by
  rw [runOf, runOf, hreg, Session.run_of_silent (Session.silent_of_callFree hfree c.clock) _ _ n m]

theorem callFree_of_find? {w : Workflow} {i : Uuid}
    (hfree : ∀ w ∈ e.flows.flows, w.graph.CallFree) (hw : e.flows.find? i = some w) :
    w.graph.CallFree :=
  hfree w (List.mem_of_find?_eq_some hw)

/-- **A call that opens a session**: it is stored under the identifier
that is drawn, run as it runs alone, and nothing else changes. -/
theorem mirrors_concat_of_opening (h : Mirrors e calls) (hreg : e.registry = .builtIn)
    (hfree : ∀ w ∈ e.flows.flows, w.graph.CallFree)
    (hids : (e.drawnIds (calls ++ [c])).Nodup) (hopen : e.opening? c.request = some (g, node)) :
    Mirrors e (calls ++ [c]) := by
  have hsome : (e.opening? c.request).isSome := by rw [hopen]; rfl
  obtain ⟨hid, w, hw, rfl⟩ := of_opening? hopen
  have hnext : (e.after calls).ids.next = e.ids.ahead (e.openings calls) := by
    rw [IdSource.next, IdSource.ahead, h.kept.stream, h.drawn]
  have hexec := execute_of_opening ((h.kept.opening? c.request).trans hopen)
  rw [hnext, h.kept.opened] at hexec
  have hkept : Kept e (e.after calls).draw := h.kept.trans (kept_draw _)
  have hgate : (e.after calls).draw.sessions.Open := h.gate
  refine ⟨?_, ?_, ?_, fun id => ?_⟩ <;> rw [after_concat, hexec]
  · exact hkept.trans (kept_serve ..)
  · rw [openings_concat, if_pos hsome, ← Nat.add_assoc, ← h.drawn]
    rfl
  · exact open_serve hgate _ _ _
  · rw [find?_serve hgate, hkept.runOf, opened_id, alone?_concat]
    by_cases heq : (e.ids.ahead (e.openings calls)).toText = id
    · subst heq
      rw [alone?_next_eq_none hsome hids]
      simp only [aloneFrom?, hopen, if_true, List.filter_nil, List.foldl_cons,
        List.foldl_nil]
      rw [proceed, if_neg (by simp),
        runOf_session_eq hreg (callFree_of_find? hfree hw)]
    -- another session stays: the call names none, and opens none but its own
    · rw [if_neg heq]
      change (e.after calls).sessions.find? id = _
      rw [h.find? id]
      cases e.alone? id calls with
      | none => simp [aloneFrom?, hopen, heq]
      | some s => simp [Call.Names, hid]

/-- **A call for an open session** moves that session as it moves alone,
and nothing else changes. -/
theorem mirrors_concat_of_open_session (h : Mirrors e calls) (hreg : e.registry = .builtIn)
    (hfree : ∀ w ∈ e.flows.flows, w.graph.CallFree) {named : String}
    (hn : c.Names named s.workflowId) (hs : e.alone? named calls = some s)
    (hc : s.status ≠ .completed) : Mirrors e (calls ++ [c]) := by
  have hopen : e.opening? c.request = none := by rw [opening?, hn.1]
  obtain ⟨hsid, ⟨w, hw⟩, -⟩ := of_aloneFrom? hs
  have hexec := execute_of_open_session hn ((h.find? named).trans hs) hc
    (h.kept.flows ▸ hw)
  refine ⟨?_, ?_, ?_, fun id => ?_⟩ <;> rw [after_concat, hexec]
  · exact h.kept.trans (kept_serve ..)
  · rw [openings_concat, hopen]
    exact h.drawn
  · exact open_serve h.gate _ _ _
  · rw [find?_serve h.gate, alone?_concat, h.find? id, hsid]
    -- the session that is named moves, and the others are not named
    by_cases heq : named = id
    · subst heq
      have hg : e.graphFor s.workflowId = w.graph := by rw [graphFor, hw]; rfl
      simp only [hs, if_pos hn, hg, if_true]
      rw [h.kept.runOf, proceed, if_neg hc, runOf_session_eq hreg (callFree_of_find? hfree hw)]
    · rw [if_neg heq]
      cases e.alone? id calls with
      | none => simp [aloneFrom?, hopen]
      | some t =>
        have hne : ¬ c.Names id t.workflowId := fun hn' =>
          heq (Option.some.inj (hn.1.symm.trans hn'.1))
        simp [hne]

/-- **A call that reaches no session** changes nothing, and no session
alone takes it. -/
theorem mirrors_concat_of_idle (h : Mirrors e calls) (hidle : (e.after calls).Idle c) :
    Mirrors e (calls ++ [c]) := by
  have hopen : e.opening? c.request = none := (h.kept.opening? _).symm.trans hidle.1
  refine ⟨?_, ?_, ?_, fun id => ?_⟩ <;> rw [after_concat, execute_of_idle hidle]
  · exact h.kept
  · rw [openings_concat, hopen]
    exact h.drawn
  · exact h.gate
  · rw [h.find? id, alone?_concat]
    cases hs : e.alone? id calls with
    | none => simp [aloneFrom?, hopen]
    | some s =>
      by_cases hn : c.Names id s.workflowId
      · have hc := hidle.2 id s hn ((h.find? id).trans hs)
        simp [proceed, hc]
      · simp [hn]

/-- **One call more.** It opens a session, or is for one that is open, or
reaches none. -/
theorem mirrors_concat (h : Mirrors e calls) (hreg : e.registry = .builtIn)
    (hfree : ∀ w ∈ e.flows.flows, w.graph.CallFree)
    (hids : (e.drawnIds (calls ++ [c])).Nodup) : Mirrors e (calls ++ [c]) := by
  cases hopen : e.opening? c.request with
  | some p => exact mirrors_concat_of_opening h hreg hfree hids hopen
  | none =>
    by_cases hidle : (e.after calls).Idle c
    · exact mirrors_concat_of_idle h hidle
    · have hex : ∃ id s, c.Names id s.workflowId ∧ (e.after calls).sessions.find? id = some s ∧
          s.status ≠ .completed := by
        by_contra hno
        refine hidle ⟨(h.kept.opening? _).trans hopen, fun id s hn hs => ?_⟩
        by_contra hc
        exact hno ⟨id, s, hn, hs, hc⟩
      obtain ⟨id, s, hn, hs, hc⟩ := hex
      exact mirrors_concat_of_open_session h hreg hfree hn ((h.find? id).symm.trans hs) hc

/-- What is drawn in some of the calls is drawn in all of them. -/
theorem nodup_drawnIds_of_append {later : List Call}
    (hids : (e.drawnIds (calls ++ later)).Nodup) : (e.drawnIds calls).Nodup := by
  refine List.Nodup.sublist (List.Sublist.map _ (List.range_sublist.2 ?_)) hids
  rw [openings, openings, List.countP_append]
  omega

/-- **After any calls the engine mirrors the sessions by themselves.** -/
theorem mirrors (hempty : e.sessions = {}) (hreg : e.registry = .builtIn)
    (hfree : ∀ w ∈ e.flows.flows, w.graph.CallFree) (hids : (e.drawnIds calls).Nodup) :
    Mirrors e calls := by
  induction calls using List.reverseRecOn with
  | nil => exact mirrors_nil hempty
  | append_singleton calls c ih =>
    exact mirrors_concat (ih (nodup_drawnIds_of_append hids)) hreg hfree hids

/-- A call that no session alone takes, and that opens none, reaches no
stored session. -/
theorem idle_of_alone (h : Mirrors e calls) (hopen : e.opening? c.request = none)
    (hdone : ∀ id s, e.alone? id calls = some s → c.Names id s.workflowId →
      s.status = .completed) : (e.after calls).Idle c :=
  ⟨(h.kept.opening? _).trans hopen, fun id s hn hs =>
    hdone id s ((h.find? id).symm.trans hs) hn⟩

/-! ## The main statement -/

/-- **Sessions do not meet.** From an empty store, with the built-in
executors and without call nodes, every stored session is the one by
itself, whatever the order of the calls. A call that opens no session and
is for none that is open leaves the store exactly as it was. A completed
session answers every later call of its own with the same state and
history. -/
theorem sessions_after_interleaving (hempty : e.sessions = {}) (hreg : e.registry = .builtIn)
    (hfree : ∀ w ∈ e.flows.flows, w.graph.CallFree) (hids : (e.drawnIds calls).Nodup) :
    (∀ id, (e.after calls).sessions.find? id = e.alone? id calls) ∧
    (∀ before c rest, calls = before ++ c :: rest → e.opening? c.request = none →
      (∀ id s, e.alone? id before = some s → c.Names id s.workflowId → s.status = .completed) →
      (e.after (before ++ [c])).sessions = (e.after before).sessions) ∧
    (∀ before later c rest id s, calls = before ++ later ++ c :: rest →
      e.alone? id before = some s → s.status = .completed → c.Names id s.workflowId →
      ∃ r, (e.after (before ++ later)).execute c.request c.clock =
          (r, e.after (before ++ later)) ∧
        r.isComplete = true ∧ r.state = s.state ∧ r.history = s.history) := by
  refine ⟨(mirrors hempty hreg hfree hids).find?, ?_, ?_⟩
  · rintro before c rest rfl hopen hdone
    have h := mirrors hempty hreg hfree (nodup_drawnIds_of_append hids)
    rw [after_concat, execute_of_idle (idle_of_alone h hopen hdone)]
  · rintro before later c rest id s rfl hs hc hn
    have h := mirrors hempty hreg hfree (nodup_drawnIds_of_append hids)
    have hfound : (e.after (before ++ later)).sessions.find? id = some s :=
      (h.find? id).trans (alone?_append_of_completed hs hc later)
    refine ⟨_, execute_of_completed hn hfound hc, ?_, rfl, rfl⟩
    simp [Response.ofSession, hc]

/-! ## Two sessions of a flow that asks once -/

/-- A start, a question and an end. -/
def askingGraph : Graph where
  nodes := [
    { workflowId := .nil, id := "s", kind := "StartNode" },
    { workflowId := .nil, id := "q", kind := "QuestionNode" },
    { workflowId := .nil, id := "e", kind := "EndNode" }]
  edges := [
    { workflowId := .nil, id := .nil, source := "s", target := "q" },
    { workflowId := .nil, id := .nil, source := "q", target := "e" }]

/-- An engine that keeps this flow alone. -/
def askingEngine : Engine where
  flows := { flows := [{
    id := .nil
    name := "asking"
    source := ""
    graph := askingGraph
    createdBy := ""
    createdAt := .epoch
    updatedAt := .epoch }] }
  ids := .random 1

/-- The identifier of its first session. -/
def firstId : String :=
  (Uuid.random 1).toText

/-- The identifier of its second session. -/
def secondId : String :=
  (Uuid.random 2).toText

/-- A call for the flow at the start of 1970. -/
def askingCall (sessionId : Option String) (answer : Option Json) (workflowId : Uuid) : Call where
  request := { workflowId, sessionId, input := answer }
  clock := { now := .epoch, stamp := "" }

/-- Two sessions are opened and the first one is answered twice; an
answer for the second one names another flow. -/
def askingCalls : List Call := [
  askingCall none none .nil,
  askingCall none none .nil,
  askingCall (some firstId) (some (.string "x")) .nil,
  askingCall (some secondId) (some (.string "x")) (.random 7),
  askingCall (some firstId) (some (.string "y")) .nil]

/-- The first session is completed by its first answer, and the second
one still asks. -/
theorem asking_sessions_after_interleaving :
    (askingEngine.drawnIds askingCalls).Nodup ∧
    ((askingEngine.after askingCalls).sessions.find? firstId).map (·.status) =
      some .completed ∧
    ((askingEngine.after askingCalls).sessions.find? secondId).map (·.status) =
      some .awaitingInput := by
  have hids : (askingEngine.drawnIds askingCalls).Nodup := by decide
  obtain ⟨hfind, -, -⟩ := sessions_after_interleaving rfl rfl (by decide) hids
  refine ⟨hids, ?_, ?_⟩
  · rw [hfind]
    decide +kernel
  · rw [hfind]
    decide +kernel

end Engine

end Flowchart
