import CheckoutLint.Conversion.Format
import CheckoutLint.Utility.Options

/-!
Utilities that write their arguments, as they are or in a format.
-/

namespace CheckoutLint.Utility.Print

open Conversion

/-- Writes the arguments. -/
def echo : Work Unit := do put (echoed Escape.longArgument (← get).call.arguments)

/-- Escapes in formats. -/
def inFormat : Escape.Reader
  | 'c' :: _ => (⟨[], true⟩, [])
  | text => Escape.longFormat text

/-- How a problem with a number reads. -/
def shown : Format.Problem → Text
  | .noNumber => ": expected a numeric value".toList
  | .notAll => ": value not completely converted".toList
  | .outOfRange => ": Numerical result out of range".toList

/-- Writes a format with arguments in it. -/
def printf : Work Unit := do
  match (← get).call.arguments with
  | [] => misuse 1 "missing operand".toList
  | format :: arguments =>
    let (pieces, left) := Format.pieces ⟨inFormat, Escape.longArgument⟩ format arguments
    for piece in pieces do
      match piece with
      | .text text => put text
      | .problem argument problem =>
        warn (Shown.exactly argument ++ shown problem)
        mark 1
      | .refused directive =>
        fail 1 ('%' :: directive ++ ": invalid conversion specification".toList)
    if let extra :: _ := left then
      warn ("warning: ignoring excess arguments, starting with ".toList ++ Shown.exactly extra)

end CheckoutLint.Utility.Print
