import CheckoutLint.Utility.Options

/-!
Numbers in the arguments of utilities, and in what they write.
-/

namespace CheckoutLint.Utility.Quantity

/-- The value of decimal digits. -/
def ofDigits (digits : Text) : Nat :=
  digits.foldl (fun n c => 10 * n + (c.toNat - '0'.toNat)) 0

/-- The number that a text is. -/
def read? (text : Text) : Option Nat :=
  if text.isEmpty || !text.all Char.isDigit then none else some (ofDigits text)

/-- The whole number that a text is, a minus sign in front allowed. -/
def readSigned? (text : Text) : Option Int :=
  match text with
  | '-' :: digits => (read? digits).map fun n => -n
  | digits => (read? digits).map Int.ofNat

/-- The number of an argument; ends the utility if it is none. -/
def require (what : String) (text : Text) : Work Nat := do
  match read? text with
  | some n => return n
  | none => fail 1 ("invalid ".toList ++ what.toList ++ ": ".toList ++ Shown.exactly text)

/-- A number aligned to the right. -/
def padded (width n : Nat) : Text :=
  let digits := Text.ofNat n
  List.replicate (width - digits.length) ' ' ++ digits

end CheckoutLint.Utility.Quantity
