/-!
# Outcomes in sequence

A computation that can fail yields an `Except`. Run one after the other, two of them
succeed exactly if the first does and the second does on its result.
-/

namespace Diglot

variable {ε α β : Type}

/-- Two steps succeed if both do. -/
theorem bind_eq_ok {first : Except ε α} {next : α → Except ε β} {result : β} :
    first >>= next = .ok result ↔ ∃ value, first = .ok value ∧ next value = .ok result := by
  cases first with
  | error e => simp [bind, Except.bind]
  | ok value => simp [bind, Except.bind]

/-- What is made of a result succeeds if there is a result. -/
theorem map_eq_ok {outcome : Except ε α} {f : α → β} {result : β} :
    f <$> outcome = .ok result ↔ ∃ value, outcome = .ok value ∧ f value = result := by
  cases outcome with
  | error e => simp [Functor.map, Except.map]
  | ok value => simp [Functor.map, Except.map]

/-- What is made of a result fails if there is no result, for the same reason. -/
theorem map_eq_error {outcome : Except ε α} {f : α → β} {e : ε} :
    f <$> outcome = .error e ↔ outcome = .error e := by
  cases outcome <;> simp [Functor.map, Except.map]

/-- A step that succeeds has a result. -/
theorem exists_of_isOk (outcome : Except ε α) (ok : outcome.isOk = true) :
    ∃ value, outcome = .ok value := by
  cases outcome with
  | error e => cases ok
  | ok value => exact ⟨value, rfl⟩

end Diglot
