import CheckoutLint.Conversion.Directive
import CheckoutLint.Conversion.Escape
import CheckoutLint.Conversion.Numeral

/-!
Writing arguments, as they are or in a format. A format is written again as long as there are
arguments left.
-/

namespace CheckoutLint.Conversion

/-! ## Arguments as they are -/

/-- What flags in front of arguments say about how these are written: whether the end of the line is
left out, and whether escapes are replaced; with the arguments behind them. -/
def echoFlags (noEnd escapes : Bool) : List Text → Bool × Bool × List Text
  | ('-' :: c :: letters) :: rest =>
    let letters := c :: letters
    if letters.all fun c => c = 'n' || c = 'e' || c = 'E' then
      let last := (letters.filter (· ≠ 'n')).getLast?
      echoFlags (noEnd || letters.contains 'n') ((last.map (· == 'e')).getD escapes) rest
    else (noEnd, escapes, ('-' :: letters) :: rest)
  | arguments => (noEnd, escapes, arguments)

/-- Arguments with blanks between them behind their flags. -/
def echoed (reader : Escape.Reader) (arguments : List Text) : Text :=
  let (noEnd, escapes, rest) := echoFlags false false arguments
  let joined := Text.joinWith [' '] rest
  let read : Escape.Read := if escapes then Escape.replace reader joined else ⟨joined, false⟩
  if noEnd || read.isLast then read.text else read.text ++ ['\n']

/-! ## Formats -/

namespace Format

/-- What is wrong with an argument that should be a number. -/
inductive Problem where
  | noNumber
  /-- Something follows the number. -/
  | notAll
  | outOfRange
  deriving DecidableEq, Repr

/-- What comes of a format, piece by piece. -/
inductive Piece where
  | text (text : Text)
  | problem (argument : Text) (problem : Problem)
  /-- There is no such directive; the output ends here. -/
  | refused (directive : Text)

/-- A format on the way: the arguments that are left, whether some have been taken, what has been
written, newest first, and whether the output goes on. -/
structure Progress where
  arguments : List Text
  hasTaken : Bool := false
  pieces : List Piece := []
  goesOn : Bool := true

/-- Writing a format. -/
abbrev Formatting := StateM Progress

/-- How escapes are read in formats and in arguments. -/
structure Readers where
  inFormat : Escape.Reader
  inArgument : Escape.Reader

/-- Writes a piece. -/
def put (piece : Piece) : Formatting Unit :=
  modify fun progress => { progress with pieces := piece :: progress.pieces }

/-- Ends the output. -/
def finish : Formatting Unit := modify fun progress => { progress with goesOn := false }

/-- Writes what has been read of escapes. -/
def putRead (read : Escape.Read) (shown : Text) : Formatting Unit := do
  put (.text shown)
  if read.isLast then finish

/-- The next argument, empty if none is left. -/
def next : Formatting Text :=
  modifyGet fun progress =>
    match progress.arguments with
    | [] => ([], progress)
    | argument :: arguments => (argument, { progress with arguments, hasTaken := true })

/-- The next argument as a whole number. Behind a quote it is that of a character. -/
def integer (isSigned : Bool) : Formatting Int := do
  match ← next with
  | [] => return 0
  | c :: rest =>
    if c = '"' || c = '\'' then return (rest.head?.map Char.toNat).getD 0
    match numeral? none (c :: rest) with
    | none =>
      put (.problem (c :: rest) .noNumber)
      return 0
    | some ⟨value, behind⟩ =>
      let (low, high) : Int × Int :=
        if isSigned then (minNumber, maxNumber) else (1 - modulus, modulus - 1)
      let fits := low ≤ value && value ≤ high
      if !behind.isEmpty then put (.problem (c :: rest) .notAll)
      else if !fits then put (.problem (c :: rest) .outOfRange)
      if fits then return value
      return if isSigned then clamp value else modulus - 1

/-- A width or a precision at the front of a format, as a number or left to an argument. -/
def measure (format : Text) : Formatting (Option Int × Text) := do
  match format with
  | '*' :: rest => return (some (← integer true), rest)
  | _ =>
    let digits := format.takeWhile Char.isDigit
    let number := if digits.isEmpty then none else some (Int.ofNat (ofDigits 10 digits))
    return (number, format.drop digits.length)

/-- Writes the next argument as a directive asks that stands behind a percent sign; gives what
follows. -/
def directive (readers : Readers) (format : Text) : Formatting Text := do
  let (flags, rest) := Directive.takeFlags format
  let (width, rest) ← measure rest
  let shape := (width.map flags.withWidth).getD flags
  let (shape, rest) ←
    match rest with
    | '.' :: rest => do
      let (precision, rest) ← measure rest
      pure (shape.withPrecision (precision.getD 0), rest)
    | rest => pure (shape, rest)
  let shape := { shape with letter := rest.headD ' ' }
  match rest.head? with
  | some 's' => put (.text (shape.string (← next)))
  | some 'b' =>
    let read := Escape.replace readers.inArgument (← next)
    putRead read (shape.string read.text)
  | some 'c' => put (.text (shape.fill [(← next).headD '\x00']))
  | some 'd' | some 'i' => put (.text (shape.signed (← integer true)))
  | some 'o' | some 'u' | some 'x' | some 'X' =>
    put (.text (shape.unsigned ((← integer false) % modulus).toNat))
  | _ =>
    put (.refused (format.take (format.length - rest.length + 1)))
    finish
  return rest.tail

/-- Writes a format once. Takes at most `fuel` steps. -/
def once (readers : Readers) (fuel : Nat) (format : Text) : Formatting Unit :=
  match fuel, format with
  | 0, _ | _, [] => return
  | fuel + 1, '\\' :: rest => do
    let (read, rest) := readers.inFormat rest
    putRead read read.text
    if (← get).goesOn then once readers fuel rest
  | fuel + 1, '%' :: '%' :: rest => do
    put (.text ['%'])
    once readers fuel rest
  | fuel + 1, '%' :: rest => do
    let rest ← directive readers rest
    if (← get).goesOn then once readers fuel rest
  | fuel + 1, c :: rest => do
    put (.text [c])
    once readers fuel rest

/-- Writes a format as often as there are arguments for it. -/
def repeated (readers : Readers) (fuel : Nat) (format : Text) : Formatting Unit :=
  match fuel with
  | 0 => return
  | fuel + 1 => do
    once readers (format.length + 1) format
    let progress ← get
    if progress.goesOn && progress.hasTaken && !progress.arguments.isEmpty then
      repeated readers fuel format

/-- What comes of a format with arguments, and the arguments that it has no place for. -/
def pieces (readers : Readers) (format : Text) (arguments : List Text) : List Piece × List Text :=
  let progress := ((repeated readers (arguments.length + 1) format).run { arguments }).2
  (progress.pieces.reverse, if progress.goesOn then progress.arguments else [])

end Format

end CheckoutLint.Conversion
