import CheckoutLint.Text.Basic

/-!
Numbers in texts, as programs read them: whole numbers of 64 bits, which wrap around when they are
computed with, and which written too long stop at the greatest.

Main statements:

* `Conversion.wrap_of_fits`: a number that fits is left as it is.
* `Conversion.wrap_fits`: a wrapped number fits.
-/

namespace CheckoutLint.Conversion

/-- How many numbers there are. -/
def modulus : Nat := 18446744073709551616

/-- The greatest number. -/
def maxNumber : Int := 9223372036854775807

/-- The least number. -/
def minNumber : Int := -9223372036854775808

/-- A number brought into range by leaving out the bits that do not fit. -/
def wrap (n : Int) : Int := Int.bmod n modulus

/-- A number that fits is kept. -/
theorem wrap_of_fits {n : Int} (low : minNumber ≤ n) (high : n ≤ maxNumber) : wrap n = n := by
  rw [wrap]
  apply Int.bmod_eq_of_le <;> simp only [modulus, minNumber, maxNumber] at * <;> omega

/-- Every number is brought into the range. -/
theorem wrap_fits (n : Int) : minNumber ≤ wrap n ∧ wrap n ≤ maxNumber := by
  have low := Int.le_bmod (x := n) (m := modulus) (by decide)
  have high := Int.bmod_lt (x := n) (m := modulus) (by decide)
  simp only [wrap, modulus, minNumber, maxNumber] at *
  omega

/-- The value of a digit, letters being digits too. -/
def digitValue (c : Char) : Nat :=
  if c.isDigit then c.toNat - '0'.toNat
  else if c.isAlpha then c.toLower.toNat - 'a'.toNat + 10
  else 99

/-- The number that digits of a base write. -/
def ofDigits (base : Nat) (digits : Text) : Nat :=
  digits.foldl (fun n c => base * n + digitValue c) 0

/-- Whether a character is a blank in front of a number. -/
def isSpace (c : Char) : Bool := c = ' ' || '\t' ≤ c && c ≤ '\r'

/-- A number read from the front of a text: its value, and what follows. -/
structure Numeral where
  value : Int
  rest : Text
  deriving DecidableEq, Repr

/-- The base of digits by how they begin, and the digits behind that. -/
def baseOf (text : Text) : Nat × Text :=
  match text with
  | '0' :: x :: d :: rest =>
    if (x = 'x' || x = 'X') && digitValue d < 16 then (16, d :: rest) else (8, text)
  | '0' :: _ => (8, text)
  | _ => (10, text)

/-- The number at the front of a text, unless there is none. In no given base, a zero in front means
octal and `0x` hexadecimal digits. -/
def numeral? (base : Option Nat) (text : Text) : Option Numeral :=
  let text := text.dropWhile isSpace
  let (sign, unsigned) : Int × Text :=
    match text with
    | '-' :: rest => (-1, rest)
    | '+' :: rest => (1, rest)
    | rest => (1, rest)
  let (base, written) :=
    match base with
    | some base => (base, unsigned)
    | none => baseOf unsigned
  let digits := written.takeWhile fun c => digitValue c < base
  if digits.isEmpty then none
  else some ⟨sign * ofDigits base digits, written.drop digits.length⟩

/-- A number brought into range by stopping at its ends. -/
def clamp (n : Int) : Int := max minNumber (min maxNumber n)

/-- The number that a text is, blanks around it left out. -/
def wholeNumber? (base : Option Nat) (text : Text) : Option Int :=
  match numeral? base text with
  | some ⟨value, rest⟩ =>
    if rest.all isSpace && minNumber ≤ value && value ≤ maxNumber then some value else none
  | none => none

end CheckoutLint.Conversion
