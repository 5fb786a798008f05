import CheckoutLint.Conversion.Numeral
import CheckoutLint.Shell.State

/-!
Numbers in the arguments of the shell's own commands.
-/

namespace CheckoutLint.Shell

open Conversion

/-- The number that a text is; stops if it is none. -/
def wholeNumber (text : Text) : Sh Int := do
  match wholeNumber? (some 10) text with
  | some n => return n
  | none => fail ("Illegal number: ".toList ++ text)

/-- The number that a text is, which must be small and not negative; stops if it is none. -/
def smallNumber (text : Text) : Sh Nat := do
  match wholeNumber? (some 10) text with
  | some (.ofNat n) => if n ≤ 2147483647 then return n
  | _ => pure ()
  fail ("Illegal number: ".toList ++ text)

end CheckoutLint.Shell
