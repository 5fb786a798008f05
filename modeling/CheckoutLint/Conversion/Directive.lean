import CheckoutLint.Text.Basic

/-!
Directives of formats: a percent sign, flags, a width, a precision and a letter that says how an
argument is written.
-/

namespace CheckoutLint.Conversion

/-- A directive. -/
structure Directive where
  left : Bool := false
  zeros : Bool := false
  plus : Bool := false
  space : Bool := false
  /-- The other form of a number, which shows its base. -/
  alternate : Bool := false
  width : Nat := 0
  precision : Option Nat := none
  letter : Char := 's'
  deriving DecidableEq, Repr

namespace Directive

/-- A text filled up with blanks to the width. -/
def fill (directive : Directive) (text : Text) : Text :=
  let gap := List.replicate (directive.width - text.length) ' '
  if directive.left then text ++ gap else gap ++ text

/-- A number, given its sign and base marks and its digits, filled up with zeros if so asked. -/
def fillNumber (directive : Directive) (front digits : Text) : Text :=
  if directive.zeros && !directive.left && directive.precision.isNone then
    front ++ List.replicate (directive.width - front.length - digits.length) '0' ++ digits
  else directive.fill (front ++ digits)

/-- Digits, as many as the precision asks for; a zero has none if none are asked for. -/
def digitsOf (directive : Directive) (base n : Nat) : Text :=
  let digits := Nat.toDigits base n
  match directive.precision with
  | some least =>
    if least = 0 && n = 0 then [] else List.replicate (least - digits.length) '0' ++ digits
  | none => digits

/-- A whole number with its sign. -/
def signed (directive : Directive) (n : Int) : Text :=
  let sign : Text :=
    if n < 0 then ['-'] else if directive.plus then ['+'] else if directive.space then [' '] else []
  directive.fillNumber sign (directive.digitsOf 10 n.natAbs)

/-- A whole number without sign, in the base that the letter asks for. -/
def unsigned (directive : Directive) (n : Nat) : Text :=
  let base := if directive.letter = 'o' then 8 else if directive.letter = 'u' then 10 else 16
  let digits := directive.digitsOf base n
  let digits :=
    if directive.letter = 'o' && directive.alternate && digits.head? != some '0' then '0' :: digits
    else digits
  let mark := if base = 16 && directive.alternate && n != 0 then "0x".toList else []
  let shown := directive.fillNumber mark digits
  if directive.letter = 'X' then shown.map Char.toUpper else shown

/-- A text, cut to the precision. -/
def string (directive : Directive) (text : Text) : Text :=
  directive.fill ((directive.precision.map text.take).getD text)

/-! ## Reading -/

/-- The directive with a flag set. -/
def withFlag (directive : Directive) (c : Char) : Directive :=
  match c with
  | '-' => { directive with left := true }
  | '0' => { directive with zeros := true }
  | '+' => { directive with plus := true }
  | ' ' => { directive with space := true }
  | '#' => { directive with alternate := true }
  | _ => directive

/-- Whether a character is a flag. -/
def isFlag (c : Char) : Bool := c = '-' || c = '0' || c = '+' || c = ' ' || c = '#'

/-- The flags at the front of a format. -/
def takeFlags (format : Text) : Directive × Text :=
  ((format.takeWhile isFlag).foldl withFlag {}, format.dropWhile isFlag)

/-- The directive with a width; a negative one asks for the left side. -/
def withWidth (directive : Directive) (width : Int) : Directive :=
  if width < 0 then { directive with left := true, width := width.natAbs }
  else { directive with width := width.natAbs }

/-- The directive with a precision; a negative one is none. -/
def withPrecision (directive : Directive) (precision : Int) : Directive :=
  { directive with precision := if precision < 0 then none else some precision.toNat }

end Directive

end CheckoutLint.Conversion
