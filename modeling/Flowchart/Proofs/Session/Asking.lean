import Flowchart.Proofs.Session.Record
import Flowchart.Proofs.Session.Rest
import Flowchart.Proofs.Session.Updates
import Flowchart.Proofs.Step.Question
import Mathlib.Data.List.Induction

/-!
# Asking again

A session that is paused at a question asks it again whenever the answer
is declined, and nothing that a later step can read has changed then: the
history is longer, and that is all (`reply_of_declined`). So answers that
are declined may be left out of a conversation
(`declined_answers_are_transparent`).
-/

namespace Flowchart

namespace Session

open Step.Question (Asks Declined Asking)

/-- The kind of nodes that ask questions. -/
def questionKind : String :=
  "QuestionNode"

/-- **The session is paused at a question** of this very graph, which it
has asked: it waits on the node, and its prompt is what the node asks in
its state. A session that was paused by an earlier version of the flow is
not covered, as its prompt may be another one. -/
structure PausedAt (g : Graph) (s : Session) (prompt : String) (rules : NodeConfig) : Prop where
  status : s.status = .awaitingInput
  prompted : s.prompt = some prompt
  question : ∃ node config, g.node? s.current = some node ∧ node.kind = questionKind ∧
    node.config? = .ok config ∧ Asks config s.state prompt rules

/-- The entry records that a session was asked where it stands. -/
structure Entry.AsksAt (current : String) (entry : Entry) : Prop where
  nodeId : entry.nodeId = current
  nodeKind : entry.nodeKind = questionKind
  output : entry.output = .empty

/-- **A session that was only asked again** is the same, but for a longer
history. -/
structure AskedAgain (s t : Session) (extra : List Entry) : Prop where
  same : t = { s with history := s.history ++ extra, input := t.input, updatedAt := t.updatedAt }
  entries : ∀ entry ∈ extra, entry.AsksAt s.current

/-- A session is given an answer, with the built-in executors. -/
def reply (g : Graph) (budget : Nat) (s : Session) (n : Web.Network) (answer : Option Json)
    (clock : Clock) : Run :=
  { s with input := answer }.run { graph := g, registry := .builtIn, clock } budget n

/-- A session is given some answers, each in a call of its own. -/
def replies (g : Graph) (budget : Nat) (p : Session × Web.Network)
    (answers : List (Option Json × Clock)) : Session × Web.Network :=
  answers.foldl (fun p a =>
    let r := reply g budget p.1 p.2 a.1 a.2
    (r.session, r.network)) p

variable {g : Graph} {s t u : Session} {n : Web.Network} {prompt : String} {rules : NodeConfig}
variable {budget : Nat} {answer : Option Json} {clock : Clock} {extra more : List Entry}
variable {setting : Setting} {ps : List Taken} {run : Run}

theorem AskedAgain.refl (s : Session) : AskedAgain s s [] :=
  ⟨by simp, by simp⟩

theorem AskedAgain.trans (h : AskedAgain s t extra) (h' : AskedAgain t u more) :
    AskedAgain s u (extra ++ more) := by
  refine ⟨?_, fun entry he => ?_⟩
  · rw [h'.same, h.same, List.append_assoc]
  · rcases List.mem_append.1 he with he | he
    · exact h.entries entry he
    · have hcurrent : t.current = s.current := by rw [h.same]
      exact hcurrent ▸ h'.entries entry he

/-- **A session that was only asked again is still paused** at the same
question. -/
theorem PausedAt.of_askedAgain (h : PausedAt g s prompt rules) (ht : AskedAgain s t extra) :
    PausedAt g t prompt rules := by
  rw [ht.same]
  exact ⟨h.status, h.prompted, h.question⟩

/-! ## Pausing -/

/-- A step that asks leaves the state that it saw. -/
theorem stateAfter_of_asking {p : Taken} (h : Asking prompt p.result) :
    p.stateAfter = p.input.state := by
  rw [Taken.stateAfter, h.updates]
  split <;> rfl

/-- What an executor of questions concludes is what the question makes,
if it asks. -/
theorem asking_of_requiresInput {p : Taken}
    (hp : Step.question.execute p.input p.before = (p.result, p.after))
    (hr : p.result.requiresInput = true) :
    ∃ prompt rules, Asks p.input.config p.input.state prompt rules ∧ Asking prompt p.result := by
  have hresult : Step.question.conclude (Step.Question.run p.input) = p.result :=
    congrArg Prod.fst hp
  cases hrun : Step.Question.run p.input with
  | error e =>
    rw [hrun] at hresult
    rw [← hresult] at hr
    cases hr
  | ok r =>
    rw [hrun] at hresult
    obtain rfl : r = p.result := hresult
    exact Step.Question.of_requiresInput hrun hr

/-- **A run that pauses at a question leaves the session paused there.**
The question was asked by the last step, which has changed nothing. -/
theorem Course.pausedAt (h : Course setting budget s n ps run)
    (hregistry : setting.registry = .builtIn) {said error : Option String}
    (ho : run.outcome = .awaitingInput said error) {node : Graph.Node}
    (hn : setting.graph.node? run.session.current = some node) (hkind : node.kind = questionKind) :
    ∃ prompt rules, said = some prompt ∧ PausedAt setting.graph run.session prompt rules := by
  obtain ⟨p, hp, hends, hcurrent⟩ | ⟨hhalts, -⟩ := h.end_cases
  · rw [ho] at hends
    obtain ⟨hfound, -, hconfig, -, -, x, hx, hmade⟩ := h.genuine p (List.mem_of_getLast? hp)
    obtain rfl : node = p.node := by
      rw [hcurrent, hfound] at hn
      exact (Option.some.inj hn).symm
    rw [hregistry, hkind] at hx
    obtain rfl : Step.question = x := Option.some.inj hx
    cases hends with
    | paused hr =>
      obtain ⟨prompt, rules, hasks, hasking⟩ := asking_of_requiresInput hmade hr
      have hstate : run.session.state = p.input.state :=
        (h.state_of_last hp).trans (stateAfter_of_asking hasking)
      refine ⟨prompt, rules, hasking.message, ?_, ?_, p.node, p.input.config, hn, hkind, hconfig,
        ?_⟩
      · rw [h.status, ho]
        rfl
      · rw [h.prompt_of_awaitingInput ho, hasking.message]
      · rw [hstate]
        exact hasks
  · exact absurd ho hhalts.not_awaitingInput

/-! ## Answers that are declined -/

/-- The step that a session takes which is paused at a question. -/
theorem PausedAt.exists_visit (h : PausedAt g s prompt rules) (answer : Option Json)
    (clock : Clock) :
    ∃ v : Visit { graph := g, registry := .builtIn, clock }
        { s with input := answer, status := .running },
      v.node.id = s.current ∧ v.node.kind = questionKind ∧ v.executor = Step.question ∧
        Asks v.config s.state prompt rules := by
  obtain ⟨node, config, hn, hkind, hconfig, hasks⟩ := h.question
  have hend : node.isEnd = false := by
    rw [Graph.Node.isEnd, hkind]
    decide
  have hprepare : prepare .builtIn node = .ok (Step.question, config) := by
    have hresolve : Step.Registry.builtIn.resolve? node.kind = some Step.question := by
      rw [hkind]
      rfl
    simp only [prepare, hresolve, hconfig]
  have harrive : arrive g { s with input := answer, status := .running } = .ok node :=
    arrive_of_node? hn hend
  exact ⟨⟨node, _, config, harrive, hprepare⟩, (mem_of_arrive_ok harrive).2, hkind, rfl, hasks⟩

/-- The question asks when its answer is declined, and reaches nothing
outside. -/
theorem asking_of_declined {s : Session} (v : Visit setting s) (hx : v.executor = Step.question)
    (hasks : Asks v.config s.state prompt rules) (hw : Declined rules s.input) (n : Web.Network) :
    Asking prompt (v.taken n).result ∧ v.network n = n := by
  have hinput : Asks v.input.config v.input.state prompt rules := hasks
  obtain ⟨r, hrun, hasking⟩ := Step.Question.run_of_declined hinput hw
  have hexecute : v.executor.execute v.input n = (r, n) := by
    rw [hx]
    change (Step.question.conclude (Step.Question.run v.input), n) = _
    rw [hrun]
    rfl
  have hresult : (v.taken n).result = r := congrArg Prod.fst hexecute
  exact ⟨hresult ▸ hasking, congrArg Prod.snd hexecute⟩

/-- **An answer that is declined is asked for again**: the call waits with
the same prompt, reaches nothing outside, and adds one entry. -/
theorem reply_of_declined (h : PausedAt g s prompt rules) (hw : Declined rules answer)
    (hb : 1 ≤ budget) (n : Web.Network) (clock : Clock) :
    ∃ entry error, AskedAgain s (reply g budget s n answer clock).session [entry] ∧
      (reply g budget s n answer clock).outcome = .awaitingInput (some prompt) error ∧
      (reply g budget s n answer clock).network = n := by
  obtain ⟨left, rfl⟩ := Nat.exists_eq_add_of_le' hb
  obtain ⟨v, hid, hkind, hx, hasks⟩ := h.exists_visit answer clock
  obtain ⟨hasking, hnetwork⟩ := asking_of_declined v hx hasks hw n
  obtain ⟨o, error, rfl, ht⟩ := v.turn_of_requiresInput n hasking.requiresInput
  have hreply : reply g (left + 1) s n answer clock = ⟨_, _, v.network n⟩ :=
    runFrom_of_turn_error ht
  have hstate : (v.taken n).stateAfter = s.state := stateAfter_of_asking hasking
  rw [hreply, hasking.message]
  refine ⟨v.entry n, error, ⟨?_, ?_⟩, rfl, hnetwork⟩
  -- status and prompt are what they were, and the state is not touched
  · simp only [closed, await, Visit.absorbed, hstate, ← h.status, ← h.prompted]
    rfl
  · simpa using ⟨hid, hkind, hasking.output⟩

theorem replies_append (g : Graph) (budget : Nat) (p : Session × Web.Network)
    (answers more : List (Option Json × Clock)) :
    replies g budget p (answers ++ more) = replies g budget (replies g budget p answers) more :=
  List.foldl_append

/-- **Answers that are declined, one after another**, add one entry each
and change nothing else. -/
theorem replies_of_declined (h : PausedAt g s prompt rules) (hb : 1 ≤ budget) (n : Web.Network)
    {answers : List (Option Json × Clock)} (hw : ∀ w ∈ answers, Declined rules w.1) :
    ∃ extra, extra.length = answers.length ∧
      AskedAgain s (replies g budget (s, n) answers).1 extra ∧
      (replies g budget (s, n) answers).2 = n := by
  induction answers using List.reverseRecOn with
  | nil => exact ⟨[], rfl, .refl s, rfl⟩
  | append_singleton answers w ih =>
    obtain ⟨hinit, hlast⟩ := List.forall_mem_append.1 hw
    obtain ⟨extra, hlength, hagain, hnetwork⟩ := ih hinit
    obtain ⟨entry, error, hentry, -, hnet⟩ := reply_of_declined (h.of_askedAgain hagain)
      (hlast w (List.mem_singleton_self w)) hb (replies g budget (s, n) answers).2 w.2
    refine ⟨extra ++ [entry], by simp [hlength], ?_, ?_⟩ <;> rw [replies_append]
    · exact hagain.trans hentry
    · exact hnet.trans hnetwork

/-- **A session that was only asked again takes an answer as before**,
with the longer history in front, if its steps take place at the same
moments. -/
theorem reply_of_askedAgain (h : PausedAt g s prompt rules) (hb : 1 ≤ budget)
    (ht : AskedAgain s t extra) (n : Web.Network) (answer : Option Json) (clock : Clock) :
    let direct := reply g budget s n answer (clock.skip extra.length)
    ∃ added, direct.session.history = s.history ++ added ∧
      reply g budget t n answer clock =
        { direct with
          session := { direct.session with history := s.history ++ extra ++ added } } := by
  obtain ⟨left, rfl⟩ := Nat.exists_eq_add_of_le' hb
  intro direct
  let setting : Setting :=
    { graph := g, registry := .builtIn, clock := clock.skip (s.history ++ extra).length }
  -- the session without a past, which both of them are after their own past
  let fresh : Session := { s with input := answer, history := [] }
  have hs : { s with input := answer } = fresh.after s.history := by
    simp [fresh, after]
  have hlonger : { t with input := answer } =
      ({ fresh with updatedAt := t.updatedAt } : Session).after (s.history ++ extra) := by
    rw [ht.same]
    simp [fresh, after]
  have hfresh : ({ fresh with updatedAt := t.updatedAt } : Session).run setting (left + 1) n =
      fresh.run setting (left + 1) n := by
    have hpast : PausedAt g { s with history := [] } prompt rules :=
      ⟨h.status, h.prompted, h.question⟩
    obtain ⟨v, -⟩ := hpast.exists_visit answer setting.clock
    exact runFrom_of_updatedAt v (left + 1) left n t.updatedAt
  have hclock : (clock.skip extra.length).skip s.history.length = setting.clock := by
    rw [Clock.skip_skip, Nat.add_comm, ← List.length_append]
  have hdirect : direct = (fresh.run setting (left + 1) n).after s.history := by
    change Session.run _ _ { s with input := answer } _ = _
    rw [hs, run_after, Setting.by, hclock]
  have hlate : reply g (left + 1) t n answer clock =
      (fresh.run setting (left + 1) n).after (s.history ++ extra) := by
    rw [reply, hlonger, run_after, ← hfresh]
    rfl
  refine ⟨(fresh.run setting (left + 1) n).session.history, ?_, ?_⟩
  · rw [hdirect]
    rfl
  · rw [hlate, hdirect]
    rfl

/-! ## The main statement -/

/-- **Answers that are declined may be left out.** A run with the
built-in executors that pauses at a question leaves the session paused
there. From such a session each call with an answer that is absent, null
or refused waits with the same prompt; and after any number of them a
further answer comes to the same end, in the same session and the same
outside, as at once, if the steps after it take place at the same moments.
The history alone is longer, by one entry without output for each of them,
in front of what the last call adds. -/
theorem declined_answers_are_transparent (g : Graph) :
    (∀ (clock : Clock) (budget : Nat) (s : Session) (n : Web.Network),
      let r := s.run ⟨g, .builtIn, clock⟩ budget n
      ∀ said error node, r.outcome = .awaitingInput said error →
        g.node? r.session.current = some node → node.kind = questionKind →
          ∃ prompt rules, said = some prompt ∧ PausedAt g r.session prompt rules) ∧
    ∀ s prompt rules, PausedAt g s prompt rules → ∀ budget, 1 ≤ budget →
      ∀ n (ws : List (Option Json × Clock)), (∀ w ∈ ws, Declined rules w.1) →
        (∀ before w later, ws = before ++ w :: later →
          let p := replies g budget (s, n) before
          ∃ error, (reply g budget p.1 p.2 w.1 w.2).outcome =
            .awaitingInput (some prompt) error) ∧
        ∀ answer clock,
          let p := replies g budget (s, n) ws
          let direct := reply g budget s n answer (clock.skip ws.length)
          let late := reply g budget p.1 p.2 answer clock
          late.outcome = direct.outcome ∧ late.network = direct.network ∧
          ∃ extra added, extra.length = ws.length ∧ (∀ entry ∈ extra, entry.AsksAt s.current) ∧
            p.1.history = s.history ++ extra ∧
            direct.session.history = s.history ++ added ∧
            late.session = { direct.session with history := s.history ++ extra ++ added } := by
  refine ⟨fun clock budget s n said error node ho hn hkind => ?_,
    fun s prompt rules hpaused budget hb n ws hw => ⟨?_, fun answer clock => ?_⟩⟩
  · exact (course_run ⟨g, .builtIn, clock⟩ budget s n).pausedAt rfl ho hn hkind
  · rintro before w later rfl
    obtain ⟨hbefore, hrest⟩ := List.forall_mem_append.1 hw
    obtain ⟨extra, -, hagain, -⟩ := replies_of_declined hpaused hb n hbefore
    obtain ⟨entry, error, -, houtcome, -⟩ := reply_of_declined (hpaused.of_askedAgain hagain)
      (hrest w (List.mem_cons_self ..)) hb (replies g budget (s, n) before).2 w.2
    exact ⟨error, houtcome⟩
  · obtain ⟨extra, hlength, hagain, hnetwork⟩ := replies_of_declined hpaused hb n hw
    have hhistory : (replies g budget (s, n) ws).1.history = s.history ++ extra := by
      rw [hagain.same]
    generalize replies g budget (s, n) ws = p at hagain hnetwork hhistory ⊢
    obtain ⟨t, m⟩ := p
    obtain rfl : m = n := hnetwork
    obtain ⟨added, hadded, hlate⟩ := reply_of_askedAgain hpaused hb hagain m answer clock
    rw [hlength] at hadded hlate
    have houtcome := congrArg Run.outcome hlate
    have houtside := congrArg Run.network hlate
    have hsession := congrArg Run.session hlate
    exact ⟨houtcome, houtside, extra, added, hlength, hagain.entries, hhistory, hadded, hsession⟩

/-! ## A name of two characters -/

/-- The rules for the name. -/
def namingRules : NodeConfig where
  entries := [("minLength", .number (.int 2))]

/-- The question for the name. -/
def namingNode : Graph.Node where
  workflowId := .nil
  id := "q"
  kind := questionKind
  payload :=
    "\x7b\"promptText\":\"Name?\",\"stateKey\":\"name\"," ++
    "\"validationRules\":\x7b\"minLength\":2\x7d\x7d"

/-- A start, the question, and an end. -/
def namingGraph : Graph where
  nodes := [
    { workflowId := .nil, id := "s", kind := "StartNode" },
    namingNode,
    { workflowId := .nil, id := "e", kind := "EndNode" }]
  edges := [
    { workflowId := .nil, id := .nil, source := "s", target := "q" },
    { workflowId := .nil, id := .nil, source := "q", target := "e" }]

/-- The start of 1970. -/
def namingClock : Clock where
  now := .epoch
  stamp := ""

/-- A session that has come to the question. -/
def namingSession : Session :=
  (reply namingGraph 9 (start "naming" .nil "" "s" .empty .epoch) {} none namingClock).session

/-- No answer, a null, and too short a name. -/
def namingAnswers : List (Option Json × Clock) :=
  [(none, namingClock), (some .null, namingClock), (some (.string "x"), namingClock)]

theorem naming_pausedAt : PausedAt namingGraph namingSession "Name?" namingRules where
  status := by decide +kernel
  prompted := by decide +kernel
  question := by
    have hnode : namingGraph.node? namingSession.current = some namingNode := by decide +kernel
    have hconfig : namingNode.config? = .ok { entries := [("promptText", .string "Name?"),
        ("stateKey", .string "name"), ("validationRules", .object namingRules.entries)] } := by
      decide +kernel
    exact ⟨_, _, hnode, rfl, hconfig, ⟨"Name?", by decide +kernel, by decide +kernel⟩,
      ⟨"name", by decide +kernel⟩, by decide +kernel⟩

theorem naming_declined : ∀ w ∈ namingAnswers, Declined namingRules w.1 := by
  have hbroken : Step.Question.violation? namingRules (Json.string "x").display =
      .ok (some "Input must be at least 2 characters.") := by decide +kernel
  simp only [namingAnswers, List.forall_mem_cons]
  exact ⟨.absent, .null, .broken hbroken, by simp⟩

/-- **The name is taken as it would have been at once**, behind three
entries more. -/
theorem naming_answers_are_transparent :
    (∀ w ∈ namingAnswers, Declined namingRules w.1) ∧
    let p := replies namingGraph 9 (namingSession, {}) namingAnswers
    let direct := reply namingGraph 9 namingSession {} (some (.string "xy")) namingClock
    let late := reply namingGraph 9 p.1 p.2 (some (.string "xy")) namingClock
    late.outcome = .completed completedMessage ∧
      late.session.state = direct.session.state ∧
      late.session.state.find? "name" = some (.string "xy") ∧
      late.session.history.length = direct.session.history.length + 3 := by
  obtain ⟨-, hasked⟩ := declined_answers_are_transparent namingGraph
  obtain ⟨-, hanswered⟩ := hasked namingSession "Name?" namingRules naming_pausedAt 9 (by decide) {}
    namingAnswers naming_declined
  obtain ⟨houtcome, -, extra, added, hlength, -, -, hdirect, hlate⟩ :=
    hanswered (some (.string "xy")) namingClock
  -- the clock stands still, so it does not matter when the answer comes
  have hstill : namingClock.skip namingAnswers.length = namingClock := rfl
  rw [hstill] at houtcome hdirect hlate
  have hname : (reply namingGraph 9 namingSession {} (some (.string "xy"))
      namingClock).session.state.find? "name" = some (.string "xy") := by decide +kernel
  have hthree : extra.length = 3 := hlength
  have hstate : (reply namingGraph 9 (replies namingGraph 9 (namingSession, {}) namingAnswers).1
      (replies namingGraph 9 (namingSession, {}) namingAnswers).2 (some (.string "xy"))
        namingClock).session.state =
      (reply namingGraph 9 namingSession {} (some (.string "xy")) namingClock).session.state := by
    rw [hlate]
  refine ⟨naming_declined, houtcome.trans (by decide +kernel), hstate, ?_, ?_⟩
  · rw [hstate, hname]
  · rw [hlate, hdirect]
    simp only [List.length_append]
    omega

end Session

end Flowchart
