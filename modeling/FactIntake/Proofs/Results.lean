/-!
Steps that give a value or the reason why there is none: when a chain of two steps, or a value changed
afterwards, gives a value, and what becomes of a reason that is told.
-/

namespace FactIntake.Results

variable {ε α β : Type}

@[simp] theorem mapError_ok {δ : Type} (tell : ε → δ) (value : α) :
    (Except.ok value : Except ε α).mapError tell = .ok value := rfl

@[simp] theorem mapError_error {δ : Type} (tell : ε → δ) (reason : ε) :
    (Except.error reason : Except ε α).mapError tell = .error (tell reason) := rfl

theorem mapError_eq_error_iff {δ : Type} {tell : ε → δ} {step : Except ε α} {told : δ} :
    step.mapError tell = .error told ↔ ∃ reason, step = .error reason ∧ tell reason = told := by
  cases step with
  | error reason => simp
  | ok value => simp

theorem bind_eq_ok_iff {step : Except ε α} {next : α → Except ε β} {value : β} :
    step >>= next = .ok value ↔ ∃ first, step = .ok first ∧ next first = .ok value := by
  cases step with
  | error reason => simp [bind, Except.bind]
  | ok first => simp [bind, Except.bind]

theorem map_eq_ok_iff {step : Except ε α} {change : α → β} {value : β} :
    step.map change = .ok value ↔ ∃ first, step = .ok first ∧ change first = value := by
  cases step with
  | error reason => simp [Except.map]
  | ok first => simp [Except.map]

theorem not_ok_iff {step : Except ε α} : (∀ value, step ≠ .ok value) ↔ ∃ reason, step = .error reason := by
  cases step with
  | error reason => simp
  | ok first => simp

end FactIntake.Results
