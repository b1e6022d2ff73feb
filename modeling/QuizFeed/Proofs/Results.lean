/-!
# Results of steps that may fail

Steps that may fail are put after one another by `>>=`. These lemmas take such a chain apart.
-/

namespace QuizFeed

variable {ε α β : Type} {step : Except ε α} {next : α → Except ε β} {result : β}

/-- What follows a step that succeeded goes on with its value. -/
theorem ok_bind (value : α) (next : α → Except ε β) :
    ((Except.ok value : Except ε α) >>= next) = next value := rfl

/-- A chain succeeds if its first step does and the rest does with the value of that step. -/
theorem bind_eq_ok : step >>= next = .ok result ↔ ∃ value, step = .ok value ∧
    next value = .ok result := by
  cases step with
  | error failure => simp [bind, Except.bind]
  | ok value => simp [bind, Except.bind]

/-- A changed result is a value if the result is one that is changed to it. -/
theorem map_eq_ok {change : α → β} : step.map change = .ok result ↔
    ∃ value, step = .ok value ∧ change value = result := by
  cases step with
  | error failure => simp [Except.map]
  | ok value => simp [Except.map]

/-- A result with a value is that value. -/
theorem eq_ok_of_toOption {result : Except ε α} {value : α}
    (found : result.toOption = some value) : result = .ok value := by
  cases result with
  | error failure => cases found
  | ok present => exact congrArg Except.ok (Option.some.inj found)

/-- The failure of a result, if it failed. -/
def failureOf? : Except ε α → Option ε
  | .ok _ => none
  | .error failure => some failure

/-- A result with a failure is that failure. -/
theorem eq_error_of_failureOf? {result : Except ε α} {failure : ε}
    (found : failureOf? result = some failure) : result = .error failure := by
  cases result with
  | error present => exact congrArg Except.error (Option.some.inj found)
  | ok value => cases found

end QuizFeed
