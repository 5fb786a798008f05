import CheckoutLint.Shell.Builtin.Variables

/-!
The shell's options and arguments: setting, listing and shifting them.
-/

namespace CheckoutLint.Shell.Options

/-- The options in the order in which they are listed, each with its letter; some have none. -/
def known : List (Text × Option Char) :=
  [("errexit".toList, some 'e'), ("noglob".toList, some 'f'), ("ignoreeof".toList, some 'I'),
    ("interactive".toList, some 'i'), ("monitor".toList, some 'm'), ("noexec".toList, some 'n'),
    ("stdin".toList, some 's'), ("xtrace".toList, some 'x'), ("verbose".toList, some 'v'),
    ("vi".toList, some 'V'), ("emacs".toList, some 'E'), ("noclobber".toList, some 'C'),
    ("allexport".toList, some 'a'), ("notify".toList, some 'b'), ("nounset".toList, some 'u'),
    ("privileged".toList, some 'p'), ("nolog".toList, none), ("debug".toList, none)]

/-- The letters of all options, in order. -/
def letters : List Char := known.filterMap (·.2)

/-- The letter under which it is kept that a pipeline fails with any of its commands. -/
def pipeLetter : Char := '|'

/-- The options with one of them set or not, in order. -/
def withOption (options : List Char) (letter : Char) (isOn : Bool) : List Char :=
  (letters ++ [pipeLetter]).filter fun other =>
    if other = letter then isOn else options.contains other

/-- Sets an option or takes it back. -/
def setOption (letter : Char) (isOn : Bool) : Sh Unit := do
  unless letters.contains letter do fail ("Illegal option -".toList ++ [letter])
  modify fun shell => { shell with options := withOption shell.options letter isOn }

/-- Lists all options. -/
def list (asCommands : Bool) : Sh Unit := do
  let options := (← get).options
  unless asCommands do say "Current option settings\n".toList
  for (name, letter) in known do
    let isOn := letter.any options.contains
    if asCommands then
      say ((if isOn then "set -o " else "set +o ").toList ++ name ++ ['\n'])
    else
      let gap := List.replicate (16 - name.length) ' '
      say (name ++ gap ++ (if isOn then "on\n" else "off\n").toList)

/-- Sets an option by its name. -/
def setByName (name : Text) (isOn : Bool) : Sh Unit := do
  let setLetter (letter : Char) : Sh Unit :=
    modify fun shell => { shell with options := withOption shell.options letter isOn }
  match known.lookup name with
  | some (some letter) => setLetter letter
  | some none => return
  | none =>
    unless name = "pipefail".toList && (← get).isExtended do
      fail ("Illegal option -o ".toList ++ name)
    setLetter pipeLetter

/-- Sets options by their letters; one of them takes its name from the arguments, of which the rest
is given back. -/
def setLetters (isOn : Bool) : Text → List Text → Sh (List Text)
  | [], arguments => return arguments
  | 'o' :: rest, arguments => do
    match arguments with
    | [] => list (!isOn)
    | name :: _ => setByName name isOn
    setLetters isOn rest arguments.tail
  | letter :: rest, arguments => do
    setOption letter isOn
    setLetters isOn rest arguments

/-- Sets the arguments of the script. -/
def setArguments (arguments : List Text) : Sh Unit :=
  modify fun shell => { shell with arguments }

/-- Sets options and arguments. Takes at most `fuel` steps. -/
def setFrom (fuel : Nat) (arguments : List Text) : Sh Unit :=
  match fuel, arguments with
  | 0, _ | _, [] => return
  | fuel + 1, argument :: rest => do
    match argument with
    | ['-'] =>
      setOption 'x' false
      setOption 'v' false
      unless rest.isEmpty do setArguments rest
    | ['-', '-'] => setArguments rest
    | '-' :: flags => setFrom fuel (← setLetters true flags rest)
    | '+' :: flags => setFrom fuel (← setLetters false flags rest)
    | _ => setArguments (argument :: rest)

/-- Sets options and arguments, or lists the variables. -/
def run (arguments : List Text) : Sh Nat := do
  if arguments.isEmpty then Variables.listAll
  else
    setFrom (arguments.length + 1) arguments
    return 0

/-! ## Arguments -/

/-- Drops arguments from the front. -/
def drop (count : Nat) (shell : Shell) : Shell :=
  { shell with arguments := shell.arguments.drop count }

/-- Shifts the arguments. -/
def shift (arguments : List Text) : Sh Nat := do
  let count ←
    match arguments with
    | [] => pure 1
    | text :: _ => smallNumber text
  let shell ← get
  if shell.arguments.length < count then fail "can't shift that many".toList
  modify (drop count)
  return 0

end CheckoutLint.Shell.Options
