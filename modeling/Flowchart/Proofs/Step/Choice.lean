import Flowchart.Step.Choice
import Mathlib.Data.List.Basic

/-!
# Which branch a choice takes

A choice takes the first branch whose condition holds, or the first
default if none holds (`Takes`), and its result is made of that branch
alone (`execute_of_holds`, `execute_of_falls`). It fails at a condition
that has no truth value, if it comes to it, and where no branch can be
taken (`takes_or_failed`). What becomes of it is settled at the branch
that it takes or fails at: those behind it change nothing
(`execute_congr_of_reaches`, `execute_congr_of_passes`). `Decides` says
all of this at once.
-/

namespace Flowchart

namespace Step

namespace Choice

/-- The condition of none of some branches holds. -/
def Passes (state : StateMap) (branches : List Branch) : Prop :=
  ∀ b ∈ branches, Condition.evaluate b.condition state = .ok false

instance (state : StateMap) (branches : List Branch) : Decidable (Passes state branches) :=
  inferInstanceAs (Decidable (∀ b ∈ branches, _))

/-- **The choice comes to a branch**: the conditions of the branches in
front of it do not hold. -/
structure Reaches (state : StateMap) (branches : List Branch) (i : Nat) (b : Branch) : Prop where
  /-- The branch has this place. -/
  at_place : branches[i]? = some b
  /-- The branches in front of it do not hold. -/
  passes : Passes state (branches.take i)

/-- **The choice takes a branch.** -/
inductive Takes (state : StateMap) (branches : List Branch) (i : Nat) (b : Branch) : Prop where
  /-- It is the first one whose condition holds. -/
  | holds (hreached : Reaches state branches i b)
    (h : Condition.evaluate b.condition state = .ok true)
  /-- No condition holds, and it is the first default. -/
  | falls (hb : branches[i]? = some b) (hpasses : Passes state branches)
    (hdefault : b.isDefault = true) (hfirst : ∀ c ∈ branches.take i, c.isDefault = false)

variable {state : StateMap} {branches rest : List Branch} {i : Nat} {b : Branch}
variable {input : Input} {n : Web.Network} {e : Condition.Error}

theorem Takes.at_place (h : Takes state branches i b) : branches[i]? = some b := by
  cases h with
  | holds hreached => exact hreached.at_place
  | falls hb => exact hb

/-! ## The first branch that holds -/

/-- A list is what stands in front of a place, what has this place and
what stands behind it. -/
theorem eq_take_append_of_getElem? (h : branches[i]? = some b) :
    branches = branches.take i ++ b :: branches.drop (i + 1) := by
  obtain ⟨hi, rfl⟩ := List.getElem?_eq_some_iff.1 h
  rw [← List.drop_eq_getElem_cons hi, List.take_append_drop]

/-- **Branches that do not hold are passed over.** -/
theorem firstHolding?_append (h : Passes state branches) :
    firstHolding? state (branches ++ rest) = firstHolding? state rest := by
  induction branches with
  | nil => rfl
  | cons b branches ih =>
    obtain ⟨hb, hrest⟩ := List.forall_mem_cons.1 h
    rw [List.cons_append, firstHolding?, hb]
    exact ih hrest

theorem firstHolding?_of_passes (h : Passes state branches) :
    firstHolding? state branches = .ok none := by
  rw [← List.append_nil branches]
  exact firstHolding?_append h

theorem firstHolding?_of_reaches (h : Reaches state branches i b) :
    firstHolding? state branches = firstHolding? state (b :: branches.drop (i + 1)) := by
  conv => lhs; rw [eq_take_append_of_getElem? h.at_place]
  exact firstHolding?_append h.passes

theorem firstHolding?_of_holds (h : Reaches state branches i b)
    (hb : Condition.evaluate b.condition state = .ok true) :
    firstHolding? state branches = .ok (some b) := by
  rw [firstHolding?_of_reaches h, firstHolding?, hb]

theorem firstHolding?_of_undecided (h : Reaches state branches i b)
    (hb : Condition.evaluate b.condition state = .error e) :
    firstHolding? state branches = .error e := by
  rw [firstHolding?_of_reaches h, firstHolding?, hb]

/-- The first default is found at its place. -/
theorem find?_default (hb : branches[i]? = some b) (hdefault : b.isDefault = true)
    (hfirst : ∀ c ∈ branches.take i, c.isDefault = false) :
    branches.find? (·.isDefault) = some b := by
  have hnone : (branches.take i).find? (·.isDefault) = none :=
    List.find?_eq_none.2 fun c hc => by simp [hfirst c hc]
  rw [eq_take_append_of_getElem? hb, List.find?_append, hnone, Option.none_or,
    List.find?_cons_of_pos hdefault]

/-! ## What the step makes of it -/

/-- A choice whose branches are read chooses between them. -/
theorem execute_of_branches (h : Branch.ofConfig? input.config = .ok branches) :
    (choice.execute input n).1 =
      choice.conclude ((choose input.state branches).mapError .condition) := by
  change choice.conclude (run input) = _
  rw [run, h]
  rfl

/-- A branch that holds is taken as that. -/
theorem execute_of_holds (h : Branch.ofConfig? input.config = .ok branches)
    (hreached : Reaches input.state branches i b)
    (hb : Condition.evaluate b.condition input.state = .ok true) :
    (choice.execute input n).1 = held b := by
  rw [execute_of_branches h, choose, firstHolding?_of_holds hreached hb]
  rfl

/-- The first default is taken where none holds. -/
theorem execute_of_falls (h : Branch.ofConfig? input.config = .ok branches)
    (hb : branches[i]? = some b) (hpasses : Passes input.state branches)
    (hdefault : b.isDefault = true) (hfirst : ∀ c ∈ branches.take i, c.isDefault = false) :
    (choice.execute input n).1 = fallen b := by
  rw [execute_of_branches h, choose, firstHolding?_of_passes hpasses, Except.map,
    find?_default hb hdefault hfirst]
  rfl

/-- A condition without a truth value fails the step. -/
theorem execute_of_undecided (h : Branch.ofConfig? input.config = .ok branches)
    (hreached : Reaches input.state branches i b)
    (hb : Condition.evaluate b.condition input.state = .error e) :
    (choice.execute input n).1 = choice.conclude (.error (.condition e)) := by
  rw [execute_of_branches h, choose, firstHolding?_of_undecided hreached hb]
  rfl

/-- Where no condition holds and there is no default the step fails. -/
theorem execute_of_unmatched (h : Branch.ofConfig? input.config = .ok branches)
    (hpasses : Passes input.state branches) (hdefault : ∀ b ∈ branches, b.isDefault = false) :
    (choice.execute input n).1 = .failed noMatch := by
  have hnone : branches.find? (·.isDefault) = none :=
    List.find?_eq_none.2 fun c hc => by simp [hdefault c hc]
  rw [execute_of_branches h, choose, firstHolding?_of_passes hpasses, Except.map, hnone]
  rfl

/-- The result leaves through a branch. -/
structure LeavesBy (r : Result) (b : Branch) : Prop where
  /-- The step succeeded. -/
  success : r.success = true
  /-- It leaves through the port of the branch. -/
  port : r.nextPort = some b.port
  /-- It goes on where the branch leads, if that is set. -/
  target : r.nextNode = b.target
  /-- Nothing is asked. -/
  requiresInput : r.requiresInput = false
  /-- The flow does not end. -/
  isComplete : r.isComplete = false

/-- **A choice leaves by the branch that it takes.** -/
theorem leavesBy_of_takes (h : Branch.ofConfig? input.config = .ok branches)
    (htakes : Takes input.state branches i b) : LeavesBy (choice.execute input n).1 b := by
  cases htakes with
  | holds hreached hb =>
    rw [execute_of_holds h hreached hb]
    exact ⟨rfl, rfl, rfl, rfl, rfl⟩
  | falls hb hpasses hdefault hfirst =>
    rw [execute_of_falls h hb hpasses hdefault hfirst]
    exact ⟨rfl, rfl, rfl, rfl, rfl⟩

/-- **A choice changes nothing of the state**, whatever becomes of it. -/
theorem updates_execute (input : Input) (n : Web.Network) :
    (choice.execute input n).1.updates = .empty := by
  cases hbranches : Branch.ofConfig? input.config with
  | error e =>
    change (choice.conclude (run input)).updates = _
    rw [run, hbranches]
    rfl
  | ok branches =>
    rw [execute_of_branches hbranches, choose]
    cases firstHolding? input.state branches with
    | error e => rfl
    | ok taken? =>
      cases taken? with
      | some b => rfl
      | none =>
        simp only [Except.map]
        cases branches.find? (·.isDefault) <;> rfl

/-- A branch that holds is found where the branches in front of it do not. -/
theorem exists_reaches_of_firstHolding? (h : firstHolding? state branches = .ok (some b)) :
    ∃ i, Reaches state branches i b ∧ Condition.evaluate b.condition state = .ok true := by
  induction branches with
  | nil => cases h
  | cons c branches ih =>
    rw [firstHolding?] at h
    split at h
    · cases h
    · next hc =>
      obtain rfl := Option.some.inj (Except.ok.inj h)
      exact ⟨0, ⟨rfl, by simp [Passes]⟩, hc⟩
    · next hc =>
      obtain ⟨i, ⟨hplace, hpasses⟩, hb⟩ := ih h
      exact ⟨i + 1, ⟨hplace, List.forall_mem_cons.2 ⟨hc, hpasses⟩⟩, hb⟩

/-- Where no branch is found none holds. -/
theorem passes_of_firstHolding? (h : firstHolding? state branches = .ok none) :
    Passes state branches := by
  induction branches with
  | nil => simp [Passes]
  | cons c branches ih =>
    rw [firstHolding?] at h
    split at h
    · cases h
    · cases h
    · next hc => exact List.forall_mem_cons.2 ⟨hc, ih h⟩

/-- **A choice takes a branch or has failed.** -/
theorem takes_or_failed (input : Input) (n : Web.Network) :
    (∃ branches i b, Branch.ofConfig? input.config = .ok branches ∧
      Takes input.state branches i b) ∨
    ∃ reason, (choice.execute input n).1 = .failed reason := by
  cases hbranches : Branch.ofConfig? input.config with
  | error e =>
    have hrun : run input = .error (.config e) := by rw [run, hbranches]; rfl
    exact .inr ⟨_, congrArg choice.conclude hrun⟩
  | ok branches =>
    cases hfirst : firstHolding? input.state branches with
    | error e =>
      have hfailed : (choice.execute input n).1 = choice.conclude (.error (.condition e)) := by
        rw [execute_of_branches hbranches, choose, hfirst]
        rfl
      exact .inr ⟨_, hfailed⟩
    | ok taken? =>
      cases taken? with
      | some b =>
        obtain ⟨i, hreached, hb⟩ := exists_reaches_of_firstHolding? hfirst
        exact .inl ⟨branches, i, b, rfl, .holds hreached hb⟩
      | none =>
        have hpasses := passes_of_firstHolding? hfirst
        cases hdefault : branches.find? (·.isDefault) with
        | none =>
          have hnone : ∀ b ∈ branches, b.isDefault = false := by
            simpa using List.find?_eq_none.1 hdefault
          exact .inr ⟨_, execute_of_unmatched hbranches hpasses hnone⟩
        | some b =>
          obtain ⟨hb, i, hi, rfl, hfirst⟩ := List.find?_eq_some_iff_getElem.1 hdefault
          refine .inl ⟨branches, i, _, rfl, .falls (List.getElem?_eq_getElem hi) hpasses hb ?_⟩
          intro c hc
          obtain ⟨j, hj, rfl⟩ := List.mem_take_iff_getElem.1 hc
          simpa using hfirst j (by omega)

/-! ## What does not matter -/

theorem getElem?_of_take_eq {branches' : List Branch}
    (heq : branches'.take (i + 1) = branches.take (i + 1)) : branches'[i]? = branches[i]? := by
  rw [← List.getElem?_take_of_lt (Nat.lt_succ_self i), heq,
    List.getElem?_take_of_lt (Nat.lt_succ_self i)]

theorem take_of_take_eq {branches' : List Branch}
    (heq : branches'.take (i + 1) = branches.take (i + 1)) :
    branches'.take i = branches.take i := by
  have htake := congrArg (List.take i) heq
  simpa [List.take_take] using htake

/-- What is behind a branch does not matter for coming to it. -/
theorem Reaches.of_take_eq {branches' : List Branch} (h : Reaches state branches i b)
    (heq : branches'.take (i + 1) = branches.take (i + 1)) : Reaches state branches' i b :=
  ⟨(getElem?_of_take_eq heq).trans h.at_place, take_of_take_eq heq ▸ h.passes⟩

/-- **Behind a branch that holds or has no truth value nothing matters.** -/
theorem execute_congr_of_reaches {input' : Input} {branches' : List Branch} {n' : Web.Network}
    (h : Branch.ofConfig? input.config = .ok branches)
    (h' : Branch.ofConfig? input'.config = .ok branches') (hstate : input'.state = input.state)
    (hreached : Reaches input.state branches i b)
    (hb : Condition.evaluate b.condition input.state ≠ .ok false)
    (heq : branches'.take (i + 1) = branches.take (i + 1)) :
    (choice.execute input' n').1 = (choice.execute input n).1 := by
  have hreached' : Reaches input'.state branches' i b := hstate ▸ hreached.of_take_eq heq
  cases hverdict : Condition.evaluate b.condition input.state with
  | error e =>
    rw [execute_of_undecided h hreached hverdict,
      execute_of_undecided h' hreached' (hstate ▸ hverdict)]
  | ok holds =>
    cases holds with
    | true =>
      rw [execute_of_holds h hreached hverdict, execute_of_holds h' hreached' (hstate ▸ hverdict)]
    | false => exact absurd hverdict hb

/-- **Behind the first default nothing matters**, as long as no condition
holds. -/
theorem execute_congr_of_passes {input' : Input} {branches' : List Branch} {n' : Web.Network}
    (h : Branch.ofConfig? input.config = .ok branches)
    (h' : Branch.ofConfig? input'.config = .ok branches')
    (hpasses : Passes input.state branches) (hpasses' : Passes input'.state branches')
    (htakes : Takes input.state branches i b)
    (heq : branches'.take (i + 1) = branches.take (i + 1)) :
    (choice.execute input' n').1 = (choice.execute input n).1 := by
  cases htakes with
  | holds hreached hb =>
    have hno := hpasses b (List.mem_of_getElem? hreached.at_place)
    rw [hb] at hno
    cases hno
  | falls hb _ hdefault hfirst =>
    rw [execute_of_falls h hb hpasses hdefault hfirst,
      execute_of_falls h' ((getElem?_of_take_eq heq).trans hb) hpasses' hdefault
        (take_of_take_eq heq ▸ hfirst)]

/-! ## The decision of a choice -/

/-- **What a choice between some branches decides.** -/
structure Decides (input : Input) (branches : List Branch) (r : Result) : Prop where
  /-- It leaves by the branch that it takes. -/
  taken : ∀ i b, Takes input.state branches i b → LeavesBy r b
  /-- A condition without a truth value that it comes to fails it. -/
  undecided : ∀ i b e, Reaches input.state branches i b →
    Condition.evaluate b.condition input.state = .error e → r.success = false
  /-- It fails where no condition holds and there is no default. -/
  unmatched : Passes input.state branches → (∀ b ∈ branches, b.isDefault = false) →
    r.success = false
  /-- It changes nothing of the state. -/
  updates : r.updates = .empty
  /-- What stands behind a branch that holds or has no truth value makes no
  difference. -/
  behind : ∀ (input' : Input) (branches' : List Branch) (n' : Web.Network) (i : Nat) (b : Branch),
    Branch.ofConfig? input'.config = .ok branches' → input'.state = input.state →
    branches'.take (i + 1) = branches.take (i + 1) → Reaches input.state branches i b →
    Condition.evaluate b.condition input.state ≠ .ok false → (choice.execute input' n').1 = r
  /-- Nor does what stands behind the default that is taken, as long as it
  does not hold. -/
  behindDefault : ∀ (input' : Input) (branches' : List Branch) (n' : Web.Network) (i : Nat)
    (b : Branch), Branch.ofConfig? input'.config = .ok branches' → input'.state = input.state →
    branches'.take (i + 1) = branches.take (i + 1) → Takes input.state branches i b →
    Passes input.state branches → Passes input.state branches' →
    (choice.execute input' n').1 = r

/-- **A choice between branches that are read decides.** -/
theorem decides_execute (h : Branch.ofConfig? input.config = .ok branches) (n : Web.Network) :
    Decides input branches (choice.execute input n).1 where
  taken _ _ := leavesBy_of_takes h
  undecided i b e hreached hb := by
    rw [execute_of_undecided h hreached hb]
    rfl
  unmatched hpasses hdefault := by
    rw [execute_of_unmatched h hpasses hdefault]
    rfl
  updates := updates_execute input n
  behind _ _ _ _ _ h' hstate heq hreached hb :=
    execute_congr_of_reaches h h' hstate hreached hb heq
  behindDefault _ _ _ _ _ h' hstate heq htakes hpasses hpasses' :=
    execute_congr_of_passes h h' hpasses (hstate ▸ hpasses') htakes heq

end Choice

end Step

end Flowchart
