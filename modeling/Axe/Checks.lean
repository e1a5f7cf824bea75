import Mathlib.Tactic.Common

namespace Axe.Check

/-!
# Checks that fail with a message

A validation is a sequence of conditions and of partial readings, each with its own
message.  It succeeds exactly when every condition holds and every reading succeeds.
-/

variable {Message Value Result : Type}

/-- Fail with the message unless the condition holds. -/
def ensure (condition : Prop) [Decidable condition] (message : Message) : Except Message Unit :=
  if condition then .ok () else .error message

/-- The value, or the message if there is none. -/
def orError (reading : Option Value) (message : Message) : Except Message Value :=
  match reading with
  | some value => .ok value
  | none => .error message

/-- Replace the message of a failure. -/
def context (message : Message) : Except Message Value → Except Message Value
  | .ok value => .ok value
  | .error _ => .error message

variable {message : Message}

@[simp] theorem ensure_eq_ok {condition : Prop} [Decidable condition] {done : Unit} :
    ensure condition message = .ok done ↔ condition := by
  by_cases holds : condition
  · simp [ensure, holds]
  · simp [ensure, holds]

@[simp] theorem orError_eq_ok {reading : Option Value} {value : Value} :
    orError reading message = .ok value ↔ reading = some value := by
  cases reading with
  | none => simp [orError]
  | some read => simp [orError]

variable {step : Except Message Value}

@[simp] theorem context_eq_ok {value : Value} :
    context message step = .ok value ↔ step = .ok value := by
  cases step with
  | error error => simp [context]
  | ok read => simp [context]

@[simp] theorem bind_eq_ok {next : Value → Except Message Result} {result : Result} :
    (step >>= next) = .ok result ↔ ∃ value, step = .ok value ∧ next value = .ok result := by
  cases step with
  | error message => simp [bind, Except.bind]
  | ok value => simp [bind, Except.bind]

end Axe.Check
