import CheckoutLint.Shell.Builtin.Test
import CheckoutLint.Shell.Expansion

/-!
What conditions in double brackets mean. Their words are not split, and one may be a pattern.
-/

namespace CheckoutLint.Shell.Question

/-- The status that says whether something holds. -/
def statusOf (holds : Bool) : Nat := if holds then 0 else 1

/-- The status of a condition. -/
def evaluate (run : Option Command → Sh Text) : Query → Sh Nat
  | .unary operator word => do
    return statusOf (← Test.holdsOn operator (← expandText run .atFront word))
  | .binary operator first second => do
    let text ← expandText run .atFront first
    if operator = ['='] || operator = "==".toList then
      return statusOf ((← expandPattern run second).covers text)
    else if operator = "!=".toList then
      return statusOf !((← expandPattern run second).covers text)
    else
      let other ← expandText run .atFront second
      return statusOf (← Test.holdsBetween text operator other)
  | .inverted query => do
    let status ← evaluate run query
    return if status = 0 then 1 else if status = 1 then 0 else status
  | .both first second => do
    let status ← evaluate run first
    if status = 0 then evaluate run second else return status
  | .either first second => do
    let status ← evaluate run first
    if status = 1 then evaluate run second else return status

end CheckoutLint.Shell.Question
