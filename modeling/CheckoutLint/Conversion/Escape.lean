import CheckoutLint.Text.Octets

/-!
Escapes: a backslash and what follows it stand for a character that is hard to write. Which escapes
there are depends on the reader.
-/

namespace CheckoutLint.Conversion.Escape

/-- Whether a character is an octal digit. -/
def isOctal (c : Char) : Bool := '0' ≤ c && c ≤ '7'

/-- The value of a digit, letters being digits too. -/
def digit (c : Char) : Nat :=
  if c.isDigit then c.toNat - '0'.toNat else c.toLower.toNat - 'a'.toNat + 10

/-- The number that digits write. -/
def number (base : Nat) (digits : Text) : Nat := digits.foldl (fun n c => base * n + digit c) 0

/-- The octet of a number, of which the upper bits are left out. -/
def octet (n : Nat) : Char := Char.ofNat (n % 256)

/-- The character that a letter behind a backslash stands for. -/
def simple? : Char → Option Char
  | 'a' => some '\x07'
  | 'b' => some '\x08'
  | 'e' => some '\x1b'
  | 'f' => some '\x0c'
  | 'n' => some '\n'
  | 'r' => some '\r'
  | 't' => some '\t'
  | 'v' => some '\x0b'
  | '\\' => some '\\'
  | _ => none

/-- Up to three octal digits at the front of a text as an octet, and what follows. -/
def takeOctal (text : Text) : Char × Text :=
  let digits := (text.take 3).takeWhile isOctal
  (octet (number 8 digits), text.drop digits.length)

/-- What has been read: a text, and whether the output is to end there. -/
structure Read where
  text : Text
  isLast : Bool := false
  deriving DecidableEq, Repr

/-- A reader of escapes, for what follows a backslash. -/
abbrev Reader := Text → Read × Text

/-- A text with its escapes replaced, newest first behind what has been read. Takes at most `fuel`
steps. -/
def replaceFrom (reader : Reader) (fuel : Nat) (done : Text) (text : Text) : Read :=
  match fuel, text with
  | 0, _ | _, [] => ⟨done.reverse, false⟩
  | fuel + 1, c :: rest =>
    if c = '\\' then
      let (read, rest) := reader rest
      let done := read.text.reverse ++ done
      if read.isLast then ⟨done.reverse, true⟩ else replaceFrom reader fuel done rest
    else replaceFrom reader fuel (c :: done) rest

/-- A text with its escapes replaced. -/
def replace (reader : Reader) (text : Text) : Read := replaceFrom reader (text.length + 1) [] text

/-- Escapes in the formats of the shell: letters and octal digits. -/
def shellFormat : Reader
  | [] => (⟨['\\'], false⟩, [])
  | c :: rest =>
    if isOctal c then
      let (octet, rest) := takeOctal (c :: rest)
      (⟨[octet], false⟩, rest)
    else
      match simple? c with
      | some plain => (⟨[plain], false⟩, rest)
      | none => (⟨['\\'], false⟩, c :: rest)

/-- Escapes in the texts of the shell: those of formats, octal digits also behind a further zero,
and a letter that ends the output. -/
def shellText : Reader
  | 'c' :: _ => (⟨[], true⟩, [])
  | '0' :: d :: rest =>
    if isOctal d then shellFormat (d :: rest) else shellFormat ('0' :: d :: rest)
  | rest => shellFormat rest

/-! ## Characters by their numbers -/

/-- Whether a character is a hexadecimal digit. -/
def isHex (c : Char) : Bool := c.isDigit || 'a' ≤ c.toLower && c.toLower ≤ 'f'

/-- Hexadecimal digits at the front of a text, at most so many. -/
def takeHex (most : Nat) (text : Text) : Text := (text.take most).takeWhile isHex

/-- A character by its number, in a form that ASCII can hold. -/
def unicodeText (n : Nat) : Text :=
  if n < 128 then [Char.ofNat n]
  else
    let letter := if n < 65536 then 'u' else 'U'
    let digits := (Nat.toDigits 16 n).map Char.toUpper
    let width := if n < 65536 then 4 else 8
    '\\' :: letter :: List.replicate (width - digits.length) '0' ++ digits

/-- The escapes of letters and of characters by their numbers in base sixteen, and what follows. -/
def long? : Text → Option (Text × Text)
  | 'E' :: rest => some (['\x1b'], rest)
  | c :: rest =>
    let most := if c = 'x' then 2 else if c = 'u' then 4 else if c = 'U' then 8 else 0
    if most = 0 then (simple? c).map fun plain => ([plain], rest)
    else
      let digits := takeHex most rest
      let n := number 16 digits
      if digits.isEmpty then none
      else some (if c = 'x' then [octet n] else unicodeText n, rest.drop digits.length)
  | [] => none

/-- A long escape; any other backslash stands for itself. -/
def longText : Reader := fun text =>
  match long? text with
  | some (read, rest) => (⟨read, false⟩, rest)
  | none => (⟨['\\'], false⟩, text)

/-- Long escapes, octal digits behind a zero, and a letter that ends the output. -/
def longEchoed : Reader
  | 'c' :: _ => (⟨[], true⟩, [])
  | '0' :: rest =>
    let (octet, rest) := takeOctal rest
    (⟨[octet], false⟩, rest)
  | text => longText text

/-- The same, and octal digits without a zero. -/
def longArgument : Reader := fun text =>
  if text.head?.any fun c => '1' ≤ c && c ≤ '7' then
    let (octet, rest) := takeOctal text
    (⟨[octet], false⟩, rest)
  else longEchoed text

/-- Long escapes, octal digits, quotes and question marks. -/
def longFormat : Reader
  | [] => (⟨['\\'], false⟩, [])
  | c :: rest =>
    if isOctal c then
      let (octet, rest) := takeOctal (c :: rest)
      (⟨[octet], false⟩, rest)
    else if c = '"' || c = '\'' || c = '?' then (⟨[c], false⟩, rest)
    else longText (c :: rest)

/-- The same, and control characters by their letters. -/
def longQuoted : Reader
  | 'c' :: c :: rest =>
    (⟨[if c = '?' then '\x7f' else Char.ofNat (c.toUpper.toNat % 32)], false⟩, rest)
  | text => longFormat text

end CheckoutLint.Conversion.Escape
