import CheckoutLint.Utility.Basic

/-!
Options of utilities. They may stand among the operands, up to two dashes. An option is a letter
behind a dash; what it wants stands behind it or in the next argument.
-/

namespace CheckoutLint.Utility.Options

/-- How a utility reads its options. -/
structure Manner where
  /-- The letters of options that want nothing. -/
  flags : String := ""
  /-- The letters of options that have an argument. -/
  valued : String := ""
  /-- The status of a utility that was called wrongly. -/
  status : Nat := 1
  /-- Whether options end at the first operand. -/
  stops : Bool := false

/-- Options that have been read, with their arguments, and operands. -/
structure Taken where
  options : List (Char × Text) := []
  operands : List Text := []
  deriving DecidableEq, Repr

/-- The options in the letters of an argument, newest first, and the arguments that are left. -/
def Manner.takeLetters (manner : Manner) (read : List (Char × Text)) (arguments : List Text) :
    Text → Work (List (Char × Text) × List Text)
  | [] => return (read, arguments)
  | letter :: rest => do
    if manner.flags.toList.contains letter then
      manner.takeLetters ((letter, []) :: read) arguments rest
    else if !manner.valued.toList.contains letter then
      misuse manner.status ("invalid option -- '".toList ++ letter :: ['\''])
    else
      match rest, arguments with
      | [], [] =>
        misuse manner.status ("option requires an argument -- '".toList ++ letter :: ['\''])
      | [], argument :: arguments => return ((letter, argument) :: read, arguments)
      | _, _ => return ((letter, rest) :: read, arguments)

/-- Reads options and operands, newest first. Takes at most `fuel` steps. -/
def Manner.takeFrom (manner : Manner) (fuel : Nat) (taken : Taken) (arguments : List Text) :
    Work Taken :=
  match fuel, arguments with
  | fuel + 1, argument :: rest => do
    match argument with
    | ['-', '-'] => return { taken with operands := rest.reverse ++ taken.operands }
    | '-' :: '-' :: text =>
      misuse manner.status ("unrecognized option '--".toList ++ text ++ ['\''])
    | '-' :: letter :: letters =>
      let (options, rest) ← manner.takeLetters taken.options rest (letter :: letters)
      manner.takeFrom fuel { taken with options } rest
    | operand =>
      if manner.stops then
        return { taken with operands := rest.reverse ++ operand :: taken.operands }
      manner.takeFrom fuel { taken with operands := operand :: taken.operands } rest
  | _, _ => return taken

/-- Reads options and operands. -/
def Manner.take (manner : Manner) (arguments : List Text) : Work Taken := do
  let taken ← manner.takeFrom (arguments.length + 1) {} arguments
  return ⟨taken.options.reverse, taken.operands.reverse⟩

/-- Reads the options and operands of the utility. -/
def Manner.ofCall (manner : Manner) : Work Taken := do
  manner.take (← get).call.arguments

/-- Whether an option was given. -/
def Taken.has (taken : Taken) (letter : Char) : Bool :=
  taken.options.any fun option => option.1 == letter

/-- The argument of an option, the last one if it was given more than once. -/
def Taken.value? (taken : Taken) (letter : Char) : Option Text :=
  taken.options.reverse.lookup letter

end CheckoutLint.Utility.Options
