import CheckoutLint.Shell.Number

/-!
Options in front of the arguments of the shell's own commands, and names of variables among them.
-/

namespace CheckoutLint.Shell

/-- What a letter is among those of a list, where a colon stands behind a letter that wants an
argument: whether it wants one; nothing if the letter is not among them. -/
def wantsArgument? (letter : Char) : Text → Option Bool
  | [] => none
  | c :: ':' :: letters => if c = letter then some true else wantsArgument? letter letters
  | c :: letters => if c = letter then some false else wantsArgument? letter letters

/-- Stops because of an option, which is an unknown one or lacks its argument. -/
def failOption {α : Type} (letter : Char) (isKnown : Bool) : Sh α :=
  if isKnown then fail ("No arg for -".toList ++ letter :: " option".toList)
  else fail ("Illegal option -".toList ++ [letter])

/-- The options in the letters behind a dash, newest first behind those that have been read, and the
arguments that are left. -/
def takeLetters (known : Text) (letters : Text) (arguments : List Text)
    (read : List (Char × Text)) : Sh (List (Char × Text) × List Text) :=
  match letters with
  | [] => return (read, arguments)
  | letter :: rest => do
    match wantsArgument? letter known with
    | none => failOption letter false
    | some false => takeLetters known rest arguments ((letter, []) :: read)
    | some true =>
      match rest, arguments with
      | [], argument :: arguments => return ((letter, argument) :: read, arguments)
      | [], [] => failOption letter true
      | _ :: _, _ => return ((letter, rest) :: read, arguments)

/-- The options in front of arguments, newest first behind those that have been read, and the
arguments behind them. Takes at most `fuel` steps. -/
def takeOptionsFrom (known : Text) (fuel : Nat) (arguments : List Text)
    (read : List (Char × Text)) : Sh (List (Char × Text) × List Text) :=
  match fuel, arguments with
  | fuel + 1, ('-' :: letter :: letters) :: rest => do
    if letter = '-' && letters.isEmpty then return (read, rest)
    let (read, rest) ← takeLetters known (letter :: letters) rest read
    takeOptionsFrom known fuel rest read
  | _, _ => return (read, arguments)

/-- The options in front of arguments, in order, and the arguments behind them. -/
def takeOptions (known : String) (arguments : List Text) :
    Sh (List (Char × Text) × List Text) := do
  let (read, rest) ← takeOptionsFrom known.toList (arguments.length + 1) arguments []
  return (read.reverse, rest)

/-- Stops if a text is no name for a variable. -/
def checkName (name : Text) : Sh Unit := do
  unless isName name do fail (name ++ ": bad variable name".toList)

/-- A text in single quotes, in which single quotes stand in double ones. -/
def singleQuoted (text : Text) : Text :=
  '\'' :: text.flatMap (fun c => if c = '\'' then "'\"'\"'".toList else [c]) ++ ['\'']

end CheckoutLint.Shell
