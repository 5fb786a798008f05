import CheckoutLint.Checker
import CheckoutLint.Failure

/-!
What a checker's pass comes to, and the exit code that a list of outcomes asks for.

Main statement:

* `Outcome.passed_ofResult_iff`: a checker has passed exactly if it found nothing and did not fail.
-/

namespace CheckoutLint

/-- The outcome of one checker. -/
structure Outcome where
  id : Text
  name : Text
  passed : Bool
  warnings : List Text
  error : Option Text
  deriving DecidableEq, Repr

namespace Outcome

/-- The outcome of a checker that found warnings or failed. -/
def ofResult (checker : Checker) : Except Failure (List Text) → Outcome
  | .ok warnings => ⟨checker.id, checker.name, warnings.isEmpty, warnings, none⟩
  | .error failure => ⟨checker.id, checker.name, false, [], some failure.message⟩

/-- A result has passed just if it has neither warnings nor an error. -/
theorem passed_ofResult_iff {checker : Checker} {result : Except Failure (List Text)} :
    (ofResult checker result).passed = true ↔
      (ofResult checker result).warnings = [] ∧ (ofResult checker result).error = none := by
  cases result <;> simp [ofResult]

/-- Two if a checker failed, else one if a checker has not passed, else zero. -/
def exitCode (outcomes : List Outcome) : Nat :=
  if outcomes.any fun outcome => outcome.error.isSome then 2
  else if outcomes.any fun outcome => !outcome.passed then 1
  else 0

end Outcome

end CheckoutLint
