import Flowchart.Proofs.Session.Timeless

/-!
# The budget of a run

The budget cuts a run off and has no other effect. A run records at most
as many steps as it may take; one that is not cut off is the run under
every larger budget (`runFrom_of_not_isCut`); and one that is cut off has
used its budget up and goes on, when it is taken up again, as if it had
never been cut (`runFrom_of_isCut`).
-/

namespace Flowchart

namespace Session

/-- The outcome with another number in the message about the budget. -/
def Outcome.withBudget (budget : Nat) : Outcome → Outcome
  | .failed (.stepBudgetExceeded _) => .failed (.stepBudgetExceeded budget)
  | o => o

/-- The run with another number in the message about the budget. -/
def Run.withBudget (budget : Nat) (r : Run) : Run :=
  { r with outcome := r.outcome.withBudget budget }

theorem Outcome.withBudget_of_not_isCut {o : Outcome} (h : ¬ o.IsCut) (budget : Nat) :
    o.withBudget budget = o := by
  unfold withBudget
  split
  · next b => exact absurd ⟨b, rfl⟩ h
  · rfl

variable {setting : Setting} {s s' : Session} {n n' : Web.Network} {run : Run}
variable {budget left : Nat}

/-! ## Only the budget cuts -/

/-- A session that ends where it stands is not cut off. -/
theorem not_isCut_of_arrive_error {g : Graph} {e : Session × Outcome}
    (h : arrive g s = .error e) : ¬ e.2.IsCut := by
  rintro ⟨b, hb⟩
  obtain ⟨-, rfl⟩ | ⟨node, -, -, rfl⟩ := arrive_error h <;> cases hb

/-- What cannot be prepared is not cut off. -/
theorem not_isCut_of_prepare_error {r : Step.Registry} {node : Graph.Node} {reason : Failure}
    (h : prepare r node = .error reason) : ¬ (Outcome.failed reason).IsCut := by
  rintro ⟨b, hb⟩
  obtain rfl := Outcome.failed.inj hb
  unfold prepare at h
  split at h
  · cases h
  · split at h
    · cases h
    · cases h

/-- No step cuts the run off itself. -/
theorem Settled.not_isCut {g : Graph} {node : Graph.Node} {r : Step.Result}
    {out : Session × Option Outcome} (h : Settled g node r s out) {o : Outcome}
    (ho : out.2 = some o) : ¬ o.IsCut := by
  rintro ⟨b, rfl⟩
  cases h <;> cases ho

/-- **No turn cuts the run off.** -/
theorem not_isCut_of_turn_error (h : turn setting s n = .error run) : ¬ run.outcome.IsCut := by
  obtain ⟨e, ha, he⟩ | ⟨node, reason, -, hp, he⟩ | ⟨⟨v⟩⟩ := turn_cases setting s n
  · rw [he] at h
    obtain rfl := Except.error.inj h
    exact not_isCut_of_arrive_error ha
  · rw [he] at h
    obtain rfl := Except.error.inj h
    exact not_isCut_of_prepare_error hp
  · have hset : Settled _ _ _ _ (v.settled n) :=
      settled_settle setting.graph v.node (v.result n) (v.recorded n)
    rw [turn_of_visit v] at h
    rcases hout : v.settled n with ⟨t, _ | o⟩ <;> rw [hout] at h hset
    · cases h
    · obtain rfl := Except.error.inj h
      exact hset.not_isCut rfl

/-- Another budget changes nothing but its number in the message. -/
theorem runFrom_withBudget (setting : Setting) (b b' left : Nat) (s : Session)
    (n : Web.Network) :
    runFrom setting b' left s n = (runFrom setting b left s n).withBudget b' := by
  induction left generalizing s n with
  | zero =>
    cases ha : arrive setting.graph s with
    | error e =>
      have hcut : ¬ (Run.of e n).outcome.IsCut := not_isCut_of_arrive_error ha
      rw [runFrom_of_arrive_error ha, runFrom_of_arrive_error ha, Run.withBudget,
        Outcome.withBudget_of_not_isCut hcut]
    | ok node =>
      rw [runFrom_zero ha, runFrom_zero ha]
      rfl
  | succ left ih =>
    rw [runFrom_succ, runFrom_succ]
    cases h : turn setting s n with
    | error run =>
      rw [Run.withBudget, Outcome.withBudget_of_not_isCut (not_isCut_of_turn_error h)]
    | ok p => exact ih p.1 p.2

/-! ## How far a run gets -/

/-- **A run records at most as many steps as are left.** -/
theorem history_runFrom (setting : Setting) (budget left : Nat) (s : Session)
    (n : Web.Network) :
    ∃ es, (runFrom setting budget left s n).session.history = s.history ++ es ∧
      es.length ≤ left := by
  induction left generalizing s n with
  | zero =>
    refine ⟨[], ?_, Nat.le_refl 0⟩
    rw [List.append_nil]
    cases ha : arrive setting.graph s with
    | error e =>
      rw [runFrom_of_arrive_error ha]
      obtain ⟨-, rfl⟩ | ⟨node, -, -, rfl⟩ := arrive_error ha <;> rfl
    | ok node =>
      rw [runFrom_zero ha]
      rfl
  | succ left ih =>
    cases h : turn setting s n with
    | error run =>
      rw [runFrom_of_turn_error h]
      obtain ⟨-, hhist | ⟨v, hhist⟩⟩ := of_turn_error h
      · exact ⟨[], by rw [hhist, List.append_nil], by simp⟩
      · exact ⟨[v.entry n], hhist, by simp⟩
    | ok p =>
      rw [runFrom_of_turn_ok h]
      obtain ⟨-, ⟨v, he⟩, -, -⟩ := of_turn_ok h
      obtain ⟨es, hes, hlen⟩ := ih p.1 p.2
      exact ⟨v.entry n :: es, by rw [hes, he, List.append_assoc]; rfl, by simpa using hlen⟩

/-- **A run that is not cut off is the run under every larger budget.** -/
theorem runFrom_of_not_isCut (h : ¬ (runFrom setting budget left s n).outcome.IsCut)
    (budget' more : Nat) :
    runFrom setting budget' (left + more) s n = runFrom setting budget left s n := by
  induction left generalizing s n with
  | zero =>
    cases ha : arrive setting.graph s with
    | error e => rw [runFrom_of_arrive_error ha, runFrom_of_arrive_error ha]
    | ok node =>
      rw [runFrom_zero ha] at h
      exact absurd ⟨budget, rfl⟩ h
  | succ left ih =>
    rw [Nat.add_right_comm]
    cases ht : turn setting s n with
    | error run => rw [runFrom_of_turn_error ht, runFrom_of_turn_error ht]
    | ok p =>
      rw [runFrom_of_turn_ok ht] at h ⊢
      rw [runFrom_of_turn_ok ht]
      exact ih h

/-- **A run that is cut off has used its budget up, and goes on as if it
had not been cut.** The induction carries that the session is running
and, once a step was taken, that its answer is used up: then it is what
is left of it, apart from the mark of the failure. -/
theorem runFrom_of_isCut (h : (runFrom setting budget left s n).outcome.IsCut)
    (hs : s.status = .running) (hi : left = 0 → s.input = none) :
    (∃ es, (runFrom setting budget left s n).session.history = s.history ++ es ∧
      es.length = left) ∧
    (runFrom setting budget left s n).session.status = .failed ∧
    ∀ budget' more, runFrom setting budget' (left + more) s n =
      runFrom setting budget' more
        { (runFrom setting budget left s n).session with status := .running, input := none }
        (runFrom setting budget left s n).network := by
  induction left generalizing s n with
  | zero =>
    cases ha : arrive setting.graph s with
    | error e =>
      rw [runFrom_of_arrive_error ha] at h
      exact absurd h (not_isCut_of_arrive_error ha)
    | ok node =>
      -- no step was taken: the failure is all that the run has changed
      rw [runFrom_zero ha]
      refine ⟨⟨[], (List.append_nil _).symm, rfl⟩, rfl, fun budget' more => ?_⟩
      rw [Nat.zero_add]
      have hback : ({ s with status := .running, input := none } : Session) = s := by
        rw [← hs, ← hi rfl]
      change _ = runFrom setting budget' more { s with status := .running, input := none } n
      rw [hback]
  | succ left ih =>
    cases ht : turn setting s n with
    | error run =>
      rw [runFrom_of_turn_error ht] at h
      exact absurd h (not_isCut_of_turn_error ht)
    | ok p =>
      rw [runFrom_of_turn_ok ht] at h ⊢
      obtain ⟨-, ⟨v, he⟩, hnone, hstatus⟩ := of_turn_ok ht
      obtain ⟨⟨es, hes, hlen⟩, hfail, hmore⟩ := ih h (hstatus.trans hs) fun _ => hnone
      refine ⟨⟨v.entry n :: es, by rw [hes, he, List.append_assoc]; rfl, by simp [hlen]⟩, hfail,
        fun budget' more => ?_⟩
      rw [Nat.add_right_comm, runFrom_of_turn_ok ht]
      exact hmore budget' more

/-- A run that was cut off and is taken up again is the longer run, at
the same time and up to the number of steps in the message. -/
theorem run_add_of_isCut {k : Nat} (hk : 1 ≤ k) (h : (s.run setting k n).outcome.IsCut)
    (more : Nat) :
    s.run setting (k + more) n =
      (({ (s.run setting k n).session with input := none } : Session).run setting more
        (s.run setting k n).network).withBudget (k + more) := by
  obtain ⟨-, -, hmore⟩ := runFrom_of_isCut h rfl (by omega)
  rw [run, hmore (k + more) more]
  exact runFrom_withBudget setting more (k + more) more _ _

/-! ## The main statement -/

/-- **The budget only cuts.** A run of `k` steps records at most `k`; if
it is not cut off, it is the run of every larger budget. If it is cut
off, it has recorded exactly `k` steps, and taking the failed session up
again without an answer for `m` steps more gives the session and the
outcome of the run of `k + m` steps, up to times and the number in the
message. The three runs may take place by three clocks, provided the
executors make the same of a step of the long run and of the step in its
place: because both bear the same stamp, or because the executors are
functions of what a step is made of, whatever its stamp. -/
theorem budget_only_cuts (graph : Graph) {registry : Step.Registry} (c₁ c₂ c₃ : Clock)
    (s : Session) (n : Web.Network) {k : Nat} (hk : 1 ≤ k) (m : Nat)
    (hfirst : ∀ i < s.history.length + k,
      registry.Steady (c₁.moment i).stamp (c₃.moment i).stamp)
    (hsecond : ∀ i ≥ s.history.length + k,
      registry.Steady (c₂.moment i).stamp (c₃.moment i).stamp) :
    let first := s.run { graph, registry, clock := c₁ } k n
    let second := ({ first.session with input := none } : Session).run
      { graph, registry, clock := c₂ } m first.network
    let long := s.run { graph, registry, clock := c₃ } (k + m) n
    (∃ es, first.session.history = s.history ++ es ∧ es.length ≤ k) ∧
    (¬ first.outcome.IsCut →
      ∀ larger, k ≤ larger → s.run { graph, registry, clock := c₁ } larger n = first) ∧
    (first.outcome.IsCut →
      (∃ es, first.session.history = s.history ++ es ∧ es.length = k) ∧
      first.session.status = .failed ∧
      second.session.timeless = long.session.timeless ∧
      long.outcome = second.outcome.withBudget (k + m) ∧
      second.network = long.network) := by
  intro first second long
  refine ⟨history_runFrom _ k k { s with status := .running } n, fun hcut larger hle => ?_,
    fun hcut => ?_⟩
  · obtain ⟨more, rfl⟩ := Nat.exists_eq_add_of_le hle
    exact runFrom_of_not_isCut hcut (k + more) more
  · obtain ⟨⟨es, hes, hlength⟩, hfail, -⟩ := runFrom_of_isCut hcut rfl (by omega)
    -- by the clock of the long run all three agree, and each of the others is set to its own
    let begun : Run := s.run { graph, registry, clock := c₃ } k n
    let resumed : Run := ({ begun.session with input := none } : Session).run
      { graph, registry, clock := c₃ } m begun.network
    have hbegun : first.timeless = begun.timeless :=
      run_timeless_eq rfl k n fun i _ hlt => hfirst i hlt
    have houtcome : first.outcome = begun.outcome := (congrArg Run.outcome hbegun :)
    have hnetwork : first.network = begun.network := (congrArg Run.network hbegun :)
    have hsession : ({ first.session with input := none } : Session).timeless =
        ({ begun.session with input := none } : Session).timeless :=
      congrArg (fun r : Run => { r.session with input := none }) hbegun
    have hlong : long = resumed.withBudget (k + m) := run_add_of_isCut hk (houtcome ▸ hcut) m
    have hstands : first.session.history.length = s.history.length + k := by
      change first.session.history = _ at hes
      rw [hes, List.length_append, hlength]
    have hresumed : second.timeless = resumed.timeless := by
      refine (run_timeless_eq hsession m first.network fun i hle _ => hsecond i ?_).trans ?_
      · exact hstands ▸ hle
      · rw [hnetwork]
    have hsame : long.timeless = second.timeless.withBudget (k + m) := by
      rw [hlong, hresumed]
      rfl
    exact ⟨⟨es, hes, hlength⟩, hfail, (congrArg Run.session hsame).symm,
      congrArg Run.outcome hsame, (congrArg Run.network hsame).symm⟩

/-! ## A flow that runs for ever -/

/-- Two messages that lead to each other. -/
def roundGraph : Graph where
  nodes := [
    { workflowId := .nil, id := "a", kind := "MessageNode" },
    { workflowId := .nil, id := "b", kind := "MessageNode" }]
  edges := [
    { workflowId := .nil, id := .nil, source := "a", target := "b" },
    { workflowId := .nil, id := .nil, source := "b", target := "a" }]

/-- A session of that flow, with an answer that no step has seen. -/
def roundSession : Session :=
  { start "round" .nil "" "a" .empty .epoch with input := some .null }

/-- That flow by a clock. -/
def roundSetting (clock : Clock) : Setting where
  graph := roundGraph
  registry := .builtIn
  clock

/-- Some second, and how steps write it. -/
def secondClock (second : Nat) (stamp : String) : Clock where
  now := { seconds := second, nanos := 0 }
  stamp

/-- Two steps in one second, and the others in the next one. -/
def turningClock : Clock where
  now := { seconds := 3, nanos := 0 }
  moment := fun i =>
    if i < 2 then (secondClock 3 "one").toMoment else (secondClock 4 "two").toMoment

/-- A run of two steps is cut off, and one of three steps more, a second
later, ends where one of five steps ends which goes on meanwhile. The
messages are written with the same stamps. -/
theorem budget_only_cuts_round :
    let first := roundSession.run (roundSetting (secondClock 1 "one")) 2 {}
    let second := ({ first.session with input := none } : Session).run
      (roundSetting (secondClock 2 "two")) 3 first.network
    let long := roundSession.run (roundSetting turningClock) (2 + 3) {}
    first.outcome = .failed (.stepBudgetExceeded 2) ∧ first.session.history.length = 2 ∧
      second.session.timeless = long.session.timeless := by
  intro first second long
  have hout : first.outcome = .failed (.stepBudgetExceeded 2) := by decide +kernel
  have hfirst : ∀ i < roundSession.history.length + 2, Step.Registry.builtIn.Steady
      ((secondClock 1 "one").moment i).stamp (turningClock.moment i).stamp := by
    intro i (hi : i < 2)
    have hmoment : turningClock.moment i = (secondClock 3 "one").toMoment := if_pos hi
    rw [hmoment]
    exact Step.Registry.Steady.refl _ _
  have hsecond : ∀ i ≥ roundSession.history.length + 2, Step.Registry.builtIn.Steady
      ((secondClock 2 "two").moment i).stamp (turningClock.moment i).stamp := by
    intro i (hi : 2 ≤ i)
    have hmoment : turningClock.moment i = (secondClock 4 "two").toMoment :=
      if_neg (Nat.not_lt.2 hi)
    rw [hmoment]
    exact Step.Registry.Steady.refl _ _
  obtain ⟨-, -, hcut⟩ := budget_only_cuts roundGraph (secondClock 1 "one") (secondClock 2 "two")
    turningClock roundSession {} (by decide : 1 ≤ 2) 3 hfirst hsecond
  obtain ⟨⟨es, hes, hlen⟩, -, hsame, -, -⟩ := hcut ⟨2, hout⟩
  refine ⟨hout, ?_, hsame⟩
  change first.session.history = _ at hes
  rw [hes]
  simpa [roundSession, start] using hlen

end Session

end Flowchart
