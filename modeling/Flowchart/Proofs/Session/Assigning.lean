import Flowchart.Proofs.Session.Outside
import Flowchart.Proofs.Step.Keyed
import Flowchart.Proofs.Template.Reference

/-!
# Assignments

An assignment writes all its variables at once: every value is made of
the state before the step, so the order of the entries does not matter
(`execute_of_perm`). A text that refers to a variable as a whole takes
its value as it is, and is shown as what rendering makes of it
(`display_resolve`).
-/

namespace Flowchart

open Template (Referable reference)

namespace Step

namespace Assignment

/-- What an assignment is configured to write: nothing, if it does not
say. -/
def Configures (config : NodeConfig) (es : Json.Entries) : Prop :=
  ∃ es?, config.object? "updates" = .ok es? ∧ es?.getD [] = es

variable {config config' : NodeConfig} {es es' : Json.Entries} {state : StateMap} {input : Input}
variable {key name text : String} {value : Json} {n : Web.Network}

/-- What a configuration that was read writes has no key twice. -/
theorem Configures.distinct (h : Configures config es) (hconfig : config.Keyed) : es.Distinct := by
  obtain ⟨_ | entries, hentries, rfl⟩ := h
  · exact List.nodup_nil
  · exact (hconfig.object? hentries).1

/-! ## Values -/

/-- **A reference to a variable takes its value**, with its type. -/
theorem resolve_reference_of_some (hname : Referable name) (h : state.find? name = some value) :
    resolve state (.string (reference name)) = value := by
  rw [resolve, Template.referenced?_reference hname, h, Option.getD_some]

/-- **A reference to nothing stays as it is.** -/
theorem resolve_reference_of_none (hname : Referable name) (h : state.find? name = none) :
    resolve state (.string (reference name)) = .string (reference name) := by
  rw [resolve, Template.referenced?_reference hname, h, Option.getD_none,
    Template.render_reference_of_none hname h]

/-- **The two ways to read a text agree**: the value that is written is
shown as what rendering makes of the text. -/
theorem display_resolve (h : ∀ name value, Referable name → text = reference name →
      state.find? name = some value → '\x7b' ∉ value.display.toList) :
    (resolve state (.string text)).display = Template.render text state := by
  cases hfound : Template.referenced? text state with
  | none =>
    rw [resolve, hfound, Option.getD_none]
    rfl
  | some value =>
    obtain ⟨name, hbare, hvalue⟩ := Option.bind_eq_some_iff.1 hfound
    obtain ⟨hname, rfl⟩ := Template.bareReference?_eq_some_iff.1 hbare
    rw [resolve, hfound, Option.getD_some,
      Template.render_reference_of_some hname hvalue (h name value hname rfl hvalue)]

/-! ## Updates -/

theorem keys_resolved (state : StateMap) (es : Json.Entries) :
    (es.map fun e => (e.1, resolve state e.2)).map (·.1) = es.keys := by
  rw [List.map_map]
  rfl

theorem find?_updates_of_mem (hes : es.Distinct) (h : (key, value) ∈ es) :
    (updates state es).find? key = some (resolve state value) := by
  have hnodup : ((es.map fun e => (e.1, resolve state e.2)).map (·.1)).Nodup :=
    keys_resolved state es ▸ hes
  rw [updates, StateMap.ofEntries, SortedMap.find?_ofList hnodup,
    SortedMap.findIn?_eq_some_iff hnodup]
  exact List.mem_map.2 ⟨_, h, rfl⟩

theorem find?_updates_of_not_mem (h : key ∉ es.keys) : (updates state es).find? key = none := by
  refine SortedMap.find?_ofList_eq_none fun e he hkey => h ?_
  obtain ⟨d, hd, rfl⟩ := List.mem_map.1 he
  exact List.mem_map.2 ⟨d, hd, hkey⟩

/-- **The order of the entries does not matter.** -/
theorem updates_of_perm (hes : es.Distinct) (hperm : es'.Perm es) :
    updates state es' = updates state es := by
  refine SortedMap.ofList_of_perm ?_ (hperm.map _)
  rw [keys_resolved]
  exact hes.perm hperm.symm

/-! ## Steps -/

/-- What an assignment with some updates leaves behind. -/
def written (updates : StateMap) : Result :=
  { Result.done (.ofEntries [
      ("updatedKeys", .array (updates.keys.map .string)),
      ("updateCount", .ofNat updates.size)]) with
    updates }

theorem execute_of_configures (input : Input) (h : Configures input.config es) (n : Web.Network) :
    assignment.execute input n = (written (updates input.state es), n) := by
  obtain ⟨es?, hes, rfl⟩ := h
  simp only [assignment, Executor.silent, Executor.execute, run, hes]
  rfl

/-- **An assignment succeeds exactly if its configuration can be read.** -/
theorem success_execute_iff :
    (assignment.execute input n).1.success = true ↔ ∃ es, Configures input.config es := by
  constructor
  · intro h
    cases hes : input.config.object? "updates" with
    | ok es? => exact ⟨_, es?, hes, rfl⟩
    | error e =>
      simp only [assignment, Executor.silent, Executor.execute, run, hes] at h
      cases h
  · rintro ⟨es, h⟩
    rw [execute_of_configures input h]
    rfl

/-- **Configurations that write the same entries in another order make the
same step.** -/
theorem execute_of_perm (input : Input) (hes : es.Distinct) (hperm : es'.Perm es)
    (h : Configures input.config es) (h' : Configures config' es') (n : Web.Network) :
    assignment.execute { input with config := config' } n = assignment.execute input n := by
  rw [execute_of_configures input h, execute_of_configures { input with config := config' } h',
    updates_of_perm hes hperm]

end Assignment

end Step

namespace Session

open Step.Assignment (Configures resolve)

variable {setting : Setting} {s : Session} {n : Web.Network} {es : Json.Entries}

/-- The state after a step that assigns. -/
theorem Visit.state_of_configures (v : Visit setting s) (hv : v.executor = Step.assignment)
    (h : Configures v.config es) (n : Web.Network) :
    (v.settled n).1.state = s.state.overlay (Step.Assignment.updates s.state es) := by
  have hresult : v.result n = Step.Assignment.written (Step.Assignment.updates s.state es) := by
    rw [Visit.result, hv, Step.Assignment.execute_of_configures v.input h]
    rfl
  rw [v.state_settled, hresult]
  rfl

/-- What a visited node is configured to write has no key twice. -/
theorem Visit.distinct_of_configures (v : Visit setting s) (h : Configures v.config es) :
    es.Distinct :=
  h.distinct (NodeConfig.keyed_of_ofText? (prepare_ok v.prepared).2)

/-- **A configured variable has the value that is made of the state before
the step.** -/
theorem Visit.find?_of_mem (v : Visit setting s) (hv : v.executor = Step.assignment)
    (h : Configures v.config es) (n : Web.Network) {e : String × Json} (he : e ∈ es) :
    (v.settled n).1.state.find? e.1 = some (resolve s.state e.2) := by
  rw [v.state_of_configures hv h, SortedMap.find?_overlay,
    Step.Assignment.find?_updates_of_mem (v.distinct_of_configures h) he, Option.some_or]

/-- **Every other variable is as it was.** -/
theorem Visit.find?_of_not_mem (v : Visit setting s) (hv : v.executor = Step.assignment)
    (h : Configures v.config es) (n : Web.Network) {key : String} (hkey : key ∉ es.keys) :
    (v.settled n).1.state.find? key = s.state.find? key := by
  rw [v.state_of_configures hv h, SortedMap.find?_overlay,
    Step.Assignment.find?_updates_of_not_mem hkey, Option.none_or]

/-- The step is the same where the executor makes the same of another
configuration. -/
theorem Visit.step_congr (v : Visit setting s) {config : NodeConfig}
    (h : v.executor.execute { v.input with config } n = v.executor.execute v.input n) :
    step setting v.node v.executor config s n = step setting v.node v.executor v.config s n :=
  congrArg (fun p : Step.Result × Web.Network =>
    (settle setting.graph v.node p.1
      (record { s with input := none }
        (.ofResult v.node.id v.node.kind p.1 (s.moment setting.clock).now)
        (s.moment setting.clock).now), p.2)) h

/-- **Assignments are simultaneous and keep types.** A step that assigns
succeeds exactly if its configuration can be read. Then every configured
variable has the value that is made of the state before the step, every
other variable is as it was, and entries in another order make the same
step; so two references to one another swap two values. A reference to a
variable takes its value, with its type, and a reference to nothing stays
as it is, whatever variables there are. If no opening brace stands in the
display text of the value that a text refers to, what is written is shown
as what rendering makes of the text. -/
theorem assignments_are_simultaneous (v : Visit setting s) (hv : v.executor = Step.assignment)
    (n : Web.Network) :
    let after := (step setting v.node v.executor v.config s n).1.1.state
    ((v.result n).success = true ↔ ∃ es, Configures v.config es) ∧
    (∀ es, Configures v.config es →
      es.Distinct ∧
      (∀ e ∈ es, after.find? e.1 = some (resolve s.state e.2)) ∧
      (∀ key, key ∉ es.keys → after.find? key = s.state.find? key) ∧
      (∀ config' es', Configures config' es' → es'.Perm es →
        step setting v.node v.executor config' s n =
          step setting v.node v.executor v.config s n) ∧
      (∀ a b x y, Referable a → Referable b → s.state.find? a = some x →
        s.state.find? b = some y →
        es = [(a, .string (reference b)), (b, .string (reference a))] →
        after.find? a = some y ∧ after.find? b = some x)) ∧
    (∀ name value, Referable name → s.state.find? name = some value →
      resolve s.state (.string (reference name)) = value) ∧
    (∀ name, Referable name → s.state.find? name = none →
      resolve s.state (.string (reference name)) = .string (reference name)) ∧
    (∀ text, (∀ name value, Referable name → text = reference name →
        s.state.find? name = some value → '\x7b' ∉ value.display.toList) →
      (resolve s.state (.string text)).display = Template.render text s.state) := by
  intro after
  refine ⟨?_, fun es hes => ?_, fun name value => Step.Assignment.resolve_reference_of_some,
    fun name => Step.Assignment.resolve_reference_of_none,
    fun text => Step.Assignment.display_resolve⟩
  · rw [Visit.result, hv]
    exact Step.Assignment.success_execute_iff
  · have hdistinct := v.distinct_of_configures hes
    have hwritten : ∀ e ∈ es, after.find? e.1 = some (resolve s.state e.2) :=
      fun e he => v.find?_of_mem hv hes n he
    refine ⟨hdistinct, hwritten, fun key hkey => v.find?_of_not_mem hv hes n hkey,
      fun config' es' hes' hperm => v.step_congr ?_, ?_⟩
    · rw [hv]
      exact Step.Assignment.execute_of_perm v.input hdistinct hperm hes hes' n
    · rintro a b x y ha hb hx hy rfl
      obtain ⟨hfirst, hrest⟩ := List.forall_mem_cons.1 hwritten
      have hsecond := hrest _ List.mem_cons_self
      exact ⟨hfirst.trans (congrArg some (Step.Assignment.resolve_reference_of_some hb hy)),
        hsecond.trans (congrArg some (Step.Assignment.resolve_reference_of_some ha hx))⟩

/-! ## A swap -/

/-- A node that swaps two variables. -/
def swappingNode : Graph.Node where
  workflowId := .nil
  id := "u"
  kind := "StateUpdateNode"
  payload := "\x7b\"updates\":\x7b\"a\":\"\x7bb\x7d\",\"b\":\"\x7ba\x7d\"\x7d\x7d"

/-- A flow of that node alone. -/
def swappingSetting : Setting where
  graph := { nodes := [swappingNode] }
  registry := .builtIn
  clock := default

/-- A session on the node, with a number and a sequence. -/
def swappingSession : Session :=
  start "swap" .nil "" "u" (.ofEntries [("a", .ofInt 1), ("b", .array [.bool true])]) .epoch

/-- What the node is configured with. -/
def swappingConfig : NodeConfig where
  entries := [("updates", .object [("a", .string "\x7bb\x7d"), ("b", .string "\x7ba\x7d")])]

/-- The session is about to execute the node. -/
def swappingVisit : Visit swappingSetting swappingSession where
  node := swappingNode
  executor := Step.assignment
  config := swappingConfig
  arrived := by decide +kernel
  prepared := by
    have hconfig : swappingNode.config? = .ok swappingConfig := by decide +kernel
    simp only [prepare, hconfig]
    rfl

/-- **The number and the sequence change places.** -/
theorem swapping_is_simultaneous :
    let after := (step swappingSetting swappingNode Step.assignment swappingConfig
      swappingSession {}).1.1.state
    swappingVisit.executor = Step.assignment ∧
      after.find? "a" = some (.array [.bool true]) ∧ after.find? "b" = some (.ofInt 1) := by
  intro after
  obtain ⟨-, hassigns, -⟩ := assignments_are_simultaneous swappingVisit rfl {}
  obtain ⟨-, -, -, -, hswap⟩ := hassigns _ ⟨_, rfl, rfl⟩
  have ha : Template.bareReference? "\x7ba\x7d" = some "a" := by decide +kernel
  have hb : Template.bareReference? "\x7bb\x7d" = some "b" := by decide +kernel
  exact ⟨rfl, hswap "a" "b" _ _ (Template.bareReference?_eq_some_iff.1 ha).1
    (Template.bareReference?_eq_some_iff.1 hb).1 (by decide +kernel) (by decide +kernel)
    (by decide +kernel)⟩

end Session

end Flowchart
