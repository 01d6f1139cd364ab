/-!
# What succeeds

Readings and steps fail as a whole when a part of them fails. So a
success of the whole is taken apart into successes of its parts.
-/

namespace Flowchart

variable {ε ε' α β : Type} {x : Except ε α} {a : α} {b : β}

/-- What a reading is turned into was read. -/
theorem map_eq_ok_iff {f : α → β} : x.map f = .ok b ↔ ∃ a, x = .ok a ∧ f a = b := by
  cases x <;> simp [Except.map]

/-- What succeeds in two steps succeeds in both. -/
theorem bind_eq_ok_iff {f : α → Except ε β} :
    x.bind f = .ok b ↔ ∃ a, x = .ok a ∧ f a = .ok b := by
  cases x <;> simp [Except.bind]

/-- What fails in two steps fails in one of them. -/
theorem bind_eq_error_iff {f : α → Except ε β} {e : ε} :
    x.bind f = .error e ↔ x = .error e ∨ ∃ a, x = .ok a ∧ f a = .error e := by
  cases x <;> simp [Except.bind]

/-- Another wording of mistakes changes no success. -/
theorem mapError_eq_ok_iff {f : ε → ε'} : x.mapError f = .ok a ↔ x = .ok a := by
  cases x with
  | error e => exact ⟨nofun, nofun⟩
  | ok b => exact ⟨fun h => congrArg _ (Except.ok.inj h), fun h => congrArg _ (Except.ok.inj h)⟩

/-- Of what fails nothing is kept. -/
theorem toOption_eq_none (h : x.isOk = false) : x.toOption = none := by
  cases x with
  | error e => rfl
  | ok a => cases h

/-- What is kept has succeeded. -/
theorem toOption_eq_some_iff : x.toOption = some a ↔ x = .ok a := by
  cases x <;> simp [Except.toOption]

/-- What is found has what the look-up is known to give. -/
theorem eq_of_map_eq_some {o : Option α} {f : α → β} (ho : o = some a) (h : o.map f = some b) :
    f a = b := by
  rw [ho] at h
  exact Option.some.inj h

end Flowchart
