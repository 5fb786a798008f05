import CheckoutLint.Shell.Builtin.Signals

/-!
The shell's own commands that say how it goes on: leaving loops, functions and the shell itself.
-/

namespace CheckoutLint.Shell.Control

/-- Leaves so many loops, or goes on with the next turn of the last of them. -/
def leave (skip : Nat → Skip) (count : Nat) : Sh Nat := do
  let shell ← get
  if shell.loops != 0 then set { shell with skip := skip (min count shell.loops) }
  return 0

/-- Leaves loops, or goes on with their next turns. -/
def leaveLoop (skip : Nat → Skip) (arguments : List Text) : Sh Nat := do
  let count ←
    match arguments with
    | [] => pure 1
    | text :: _ =>
      match ← smallNumber text with
      | 0 => fail ("Illegal number: ".toList ++ text)
      | n => pure n
  leave skip count

/-- Leaves a function or a script. -/
def leaveFunction (arguments : List Text) : Sh Nat := do
  let shell ← get
  let status ←
    match arguments with
    | [] => pure shell.status
    | text :: _ => smallNumber text
  modify fun shell => { shell with skip := .returning !arguments.isEmpty }
  return status

/-- Leaves the shell. -/
def leaveShell (arguments : List Text) : Sh Nat := do
  let shell ← get
  let status ←
    match arguments with
    | [] => pure (shell.heldStatus.getD shell.status)
    | text :: _ => smallNumber text
  modify fun shell => { shell with status, heldStatus := some status }
  throw .ended

end CheckoutLint.Shell.Control
