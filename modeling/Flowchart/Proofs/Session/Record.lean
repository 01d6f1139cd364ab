import Flowchart.Proofs.Session.Turn

/-!
# What a session keeps of its past

The history of a session and the time of its last change are written by
a run, and but for its length, which tells the moment of the next step,
never read. So a run commutes with every way to keep them otherwise, as
long as a step is added to both in the same way by a clock of its own
(`runFrom_retold`): with a longer past in front of the history
(`run_after`), or with the times left out.
-/

namespace Flowchart

/-- The clock after some steps. -/
def Clock.skip (c : Clock) (steps : Nat) : Clock :=
  { c with moment := fun i => c.moment (steps + i) }

theorem Clock.skip_skip (c : Clock) (k l : Nat) : (c.skip k).skip l = c.skip (k + l) := by
  simp only [Clock.skip, Nat.add_assoc]

namespace Session

/-- A way to keep the past of a session. -/
structure Retelling where
  /-- What becomes of the history. -/
  history : List Entry → List Entry
  /-- What becomes of the time of the last change. -/
  updatedAt : Instant → Instant

/-- The session with its past kept otherwise. -/
def retold (f : Retelling) (s : Session) : Session :=
  { s with history := f.history s.history, updatedAt := f.updatedAt s.updatedAt }

/-- The run with the past of its session kept otherwise. -/
def Run.retold (f : Retelling) (r : Run) : Run :=
  { r with session := r.session.retold f }

/-- The setting with another clock. -/
def Setting.by (setting : Setting) (clock : Clock) : Setting :=
  { setting with clock }

/-- **A step by one clock is told as a step by another**, after steps that
are told so. -/
structure Retelling.Moves (f : Retelling) (c c' : Clock) : Prop where
  /-- Both steps bear one stamp. -/
  stamp : ∀ es, (c'.moment (f.history es).length).stamp = (c.moment es.length).stamp
  /-- The step comes behind the steps before it. -/
  history : ∀ es nodeId kind r,
    f.history (es ++ [.ofResult nodeId kind r (c.moment es.length).now]) =
      f.history es ++ [.ofResult nodeId kind r (c'.moment (f.history es).length).now]
  /-- It is the last change. -/
  updatedAt : ∀ es, f.updatedAt (c.moment es.length).now = (c'.moment (f.history es).length).now

variable {f : Retelling} {setting : Setting} {s : Session} {n : Web.Network} {c c' clock : Clock}

/-- A recorded step is retold. -/
theorem record_retold (hf : f.Moves c c') (s : Session) (nodeId kind : String)
    (r : Step.Result) :
    (s.record (.ofResult nodeId kind r (s.moment c).now) (s.moment c).now).retold f =
      (s.retold f).record (.ofResult nodeId kind r ((s.retold f).moment c').now)
        ((s.retold f).moment c').now := by
  simp only [record, retold, moment, hf.history, hf.updatedAt]

/-- Where a session stands does not depend on its past. -/
theorem arrive_retold (g : Graph) (s : Session) :
    arrive g (s.retold f) = (arrive g s).mapError fun e => (e.1.retold f, e.2) := by
  have hcurrent : (s.retold f).current = s.current := rfl
  unfold arrive
  rw [hcurrent]
  cases g.node? s.current with
  | none => rfl
  | some node => cases hend : node.isEnd <;> simp [hend] <;> rfl

/-- How a step is settled does not depend on the past. -/
theorem settle_retold (g : Graph) (node : Graph.Node) (r : Step.Result) (s : Session) :
    settle g node r (s.retold f) = ((settle g node r s).1.retold f, (settle g node r s).2) := by
  have h := settled_settle g node r s
  generalize hout : settle g node r s = out at h
  cases h with
  | refused hs hi => simp only [settle, hs, hi]; rfl
  | failed hs hi => simp only [settle, hs, hi]; rfl
  | asked hs hi => simp only [settle, hs, hi]; rfl
  | finished hs hi hc => simp only [settle, hs, hi, hc]; rfl
  | deadEnd hs hi hc hn => simp only [settle, hs, hi, hc, hn]; rfl
  | moved id hs hi hc hn => simp only [settle, hs, hi, hc, hn]; rfl

/-- **A turn commutes with another way to keep the past.** -/
theorem turn_retold (hf : f.Moves setting.clock clock) (s : Session) (n : Web.Network) :
    turn (setting.by clock) (s.retold f) n =
      match turn setting s n with
      | .error run => .error (run.retold f)
      | .ok (s, n) => .ok (s.retold f, n) := by
  cases ha : arrive setting.graph s with
  | error e =>
    have ha' : arrive (setting.by clock).graph (s.retold f) = .error (e.1.retold f, e.2) := by
      change arrive setting.graph _ = _
      rw [arrive_retold, ha]
      rfl
    simp only [turn, ha, ha']
    rfl
  | ok node =>
    have ha' : arrive (setting.by clock).graph (s.retold f) = .ok node := by
      change arrive setting.graph _ = _
      rw [arrive_retold, ha]
      rfl
    cases hp : prepare setting.registry node with
    | error reason =>
      have hp' : prepare (setting.by clock).registry node = .error reason := hp
      simp only [turn, ha, hp, ha', hp']
      rfl
    | ok p =>
      -- both turns are visits to one node, and of the past a step is made of its moment alone
      let v : Visit setting s := ⟨node, p.1, p.2, ha, hp⟩
      let w : Visit (setting.by clock) (s.retold f) := ⟨node, p.1, p.2, ha', hp⟩
      have hinput : w.input = v.input :=
        congrArg (fun stamp => ({ v.input with stamp } : Step.Input)) (hf.stamp s.history)
      have hresult : w.result n = v.result n := by rw [Visit.result, Visit.result, hinput]
      have hrec : w.recorded n = (v.recorded n).retold f := by
        rw [Visit.recorded, Visit.entry, hresult]
        exact (record_retold hf { s with input := none } node.id node.kind (v.result n)).symm
      have hset : w.settled n = ((v.settled n).1.retold f, (v.settled n).2) := by
        change settle setting.graph node (w.result n) (w.recorded n) = _
        rw [hresult, hrec, settle_retold]
        rfl
      have hnet : w.network n = v.network n := by rw [Visit.network, Visit.network, hinput]
      rw [turn_of_visit v, turn_of_visit w, hset, hnet]
      rcases v.settled n with ⟨u, _ | o⟩ <;> rfl

/-- **A run commutes with another way to keep the past.** -/
theorem runFrom_retold (hf : f.Moves setting.clock clock) (budget left : Nat) (s : Session)
    (n : Web.Network) :
    runFrom (setting.by clock) budget left (s.retold f) n =
      (runFrom setting budget left s n).retold f := by
  induction left generalizing s n with
  | zero =>
    have ha' : arrive (setting.by clock).graph (s.retold f) = _ := arrive_retold setting.graph s
    cases ha : arrive setting.graph s with
    | error e =>
      rw [ha] at ha'
      rw [runFrom_of_arrive_error ha, runFrom_of_arrive_error ha']
      rfl
    | ok node =>
      rw [ha] at ha'
      rw [runFrom_zero ha, runFrom_zero ha']
      rfl
  | succ left ih =>
    rw [runFrom_succ, runFrom_succ, turn_retold hf]
    cases turn setting s n with
    | error run => rfl
    | ok p => exact ih p.1 p.2

/-! ## A longer past -/

/-- The session with more steps in front of its history. -/
def after (past : List Entry) (s : Session) : Session :=
  { s with history := past ++ s.history }

/-- The run with more steps in front of the history. -/
def Run.after (past : List Entry) (r : Run) : Run :=
  { r with session := r.session.after past }

/-- **A longer past changes nothing**, at the same moments. The run is the
same, and the past stays in front of its history. -/
theorem run_after (setting : Setting) (past : List Entry) (budget : Nat) (s : Session)
    (n : Web.Network) :
    (s.after past).run setting budget n =
      (s.run (setting.by (setting.clock.skip past.length)) budget n).after past := by
  let later := setting.by (setting.clock.skip past.length)
  have hmoment (es : List Entry) : setting.clock.moment (past ++ es).length =
      later.clock.moment es.length := by
    rw [List.length_append]
    rfl
  have hf : (⟨(past ++ ·), fun t => t⟩ : Retelling).Moves later.clock setting.clock := by
    refine ⟨fun es => congrArg Moment.stamp (hmoment es), fun es nodeId kind r => ?_,
      fun es => congrArg Moment.now (hmoment es).symm⟩
    simp only [hmoment, List.append_assoc]
  exact runFrom_retold hf budget budget { s with status := .running } n

/-! ## An earlier change -/

/-- **A run that takes a step is the last change**: it does not matter
when the one before was. -/
theorem runFrom_of_updatedAt (v : Visit setting s) (budget left : Nat) (n : Web.Network)
    (t : Instant) :
    runFrom setting budget (left + 1) { s with updatedAt := t } n =
      runFrom setting budget (left + 1) s n := by
  obtain ⟨hfound, hend⟩ := arrive_ok v.arrived
  let w : Visit setting { s with updatedAt := t } :=
    ⟨v.node, v.executor, v.config, arrive_of_node? hfound hend, v.prepared⟩
  rw [runFrom_succ, runFrom_succ, turn_of_visit v, turn_of_visit w]
  rfl

end Session

end Flowchart
