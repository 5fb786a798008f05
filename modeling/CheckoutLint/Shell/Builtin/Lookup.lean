import CheckoutLint.Host.Condition
import CheckoutLint.Shell.Builtin.Variables

/-!
Commands by name: the shell's own, functions, and programs, which are searched in the directories of
a variable; and the shell's own commands that tell what a name means.
-/

namespace CheckoutLint.Shell.Lookup

/-- The names of the shell's own commands. -/
def ownNames : List Text :=
  specialNames ++
    ["[".toList, "alias".toList, "cd".toList, "chdir".toList, "command".toList,
      "echo".toList, "false".toList, "kill".toList, "printf".toList, "pwd".toList, "read".toList,
      "test".toList, "true".toList, "type".toList, "unalias".toList, "wait".toList]

/-- Whether a name is that of one of the shell's own commands. -/
def isOwn (name : Text) : Bool := ownNames.contains name

/-! ## Programs -/

/-- Whether a path leads to a file that can be executed; else why not. -/
def executable (host : Host) (cwd : Place) (path : Text) : Option SystemError :=
  match host.find true cwd path with
  | .error cause => some cause
  | .ok (_, .file _ true) => none
  | .ok _ => some .denied

/-- Searches directories for a program. One that is there but must not be executed is passed over,
but is the cause in the end. -/
def searchIn (host : Host) (cwd : Place) (name : Text) (cause : SystemError) :
    List Text → Except SystemError Text
  | [] => .error cause
  | directory :: directories =>
    let path := if directory.isEmpty then name else Path.join directory name
    match executable host cwd path with
    | none => .ok path
    | some found =>
      let cause := if found = .missing ∨ found = .notDirectory then cause else found
      searchIn host cwd name cause directories

/-- The path of a program. -/
def program (shell : Shell) (name : Text) : Except SystemError Text :=
  if name.contains '/' then .ok name
  else
    searchIn shell.host shell.cwd name .missing (Text.splitAt ':' (shell.valueOf "PATH"))

/-- Why a program cannot be run, as the shell says it. -/
def reasonOf (shell : Shell) (name : Text) (cause : SystemError) : Text :=
  if shell.isExtended then
    if !name.contains '/' && cause = .missing then "command not found".toList else cause.reason
  else if cause = .missing ∨ cause = .notDirectory then "not found".toList
  else cause.reason

/-- The status of a shell that cannot run a program. -/
def statusOf (cause : SystemError) : Nat :=
  if [SystemError.missing, .notDirectory, .nameTooLong, .tooManyLinks].contains cause then 127
  else 126

/-! ## Telling -/

/-- Tells what a name means, in a sentence or in short. -/
def describe (inWords : Bool) (name : Text) : Sh Nat := do
  let shell ← get
  let tell (words short : Text) : Sh Nat := do
    say ((if inWords then name ++ words else short) ++ ['\n'])
    return 0
  if keywords.contains name then tell " is a shell keyword".toList name
  else
    match shell.aliases.lookup name with
    | some value =>
      if inWords then tell (" is an alias for ".toList ++ value) []
      else
        say ("alias ".toList ++ Variables.aliasLine (name, value))
        return 0
    | none =>
      if (shell.functions.lookup name).isSome then tell " is a shell function".toList name
      else if specialNames.contains name then tell " is a special shell builtin".toList name
      else if ownNames.contains name then tell " is a shell builtin".toList name
      else
        let missing : Sh Nat := do
          if inWords then say (name ++ ": not found\n".toList)
          return 127
        match program shell name with
        | .error _ => missing
        | .ok path =>
          if (shell.host.find true shell.cwd path).toBool then tell (" is ".toList ++ path) path
          else missing

/-- Tells what names mean. -/
def describeAll (arguments : List Text) : Sh Nat := do
  let mut status := 0
  for name in arguments do
    let one ← describe true name
    status := status ||| one
  return status

end CheckoutLint.Shell.Lookup
