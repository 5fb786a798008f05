import CheckoutLint.Json
import CheckoutLint.Outcome

/-!
The report as JSON: a list of outcomes in order, each an object. The member for an error is left out
if there was none.
-/

namespace CheckoutLint

/-- The members of an outcome's object. -/
def Outcome.members (outcome : Outcome) : List (Text × Json) :=
  [("id".toList, .string outcome.id), ("name".toList, .string outcome.name),
    ("passed".toList, .bool outcome.passed),
    ("warnings".toList, .array (outcome.warnings.map .string))] ++
    (outcome.error.map fun message => ("error".toList, Json.string message)).toList

namespace Report

/-- The value of a list of outcomes. -/
def jsonValue (outcomes : List Outcome) : Json :=
  .array (outcomes.map fun outcome => .object outcome.members)

/-- The JSON text of a list of outcomes. -/
def json (outcomes : List Outcome) : Text := (jsonValue outcomes).render

end Report

end CheckoutLint
