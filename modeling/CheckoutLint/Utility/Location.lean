import CheckoutLint.Host.Condition
import CheckoutLint.Utility.Options

/-!
Utilities that answer with paths: parts of a path and the working directory.
-/

namespace CheckoutLint.Utility.Location

/-- The last name of a path, or a slash if the path is made of slashes. -/
def lastPart (path : Text) : Text :=
  match (Path.names path).getLast? with
  | some name => name
  | none => path.take 1

/-- A name without an ending, unless it is all of it. -/
def withoutEnding (ending name : Text) : Text :=
  if ending.isSuffixOf name && ending.length < name.length then
    name.take (name.length - ending.length)
  else name

/-- A path without its last name. -/
def frontPart (path : Text) : Text :=
  let short := (path.reverse.dropWhile (· = '/')).dropWhile (· ≠ '/')
  match (short.dropWhile (· = '/')).reverse with
  | [] => if path.head? = some '/' then ['/'] else ['.']
  | front => front

/-- Writes the last name of a path. -/
def basename : Work Unit := do
  let manner : Options.Manner := {}
  let taken ← manner.ofCall
  match taken.operands with
  | [] => misuse 1 "missing operand".toList
  | [path] => putLine (lastPart path)
  | [path, ending] => putLine (withoutEnding ending (lastPart path))
  | _ :: _ :: extra :: _ => misuse 1 ("extra operand ".toList ++ Shown.exactly extra)

/-- Writes paths without their last names. -/
def dirname : Work Unit := do
  let manner : Options.Manner := {}
  let taken ← manner.ofCall
  if taken.operands.isEmpty then misuse 1 "missing operand".toList
  for path in taken.operands do putLine (frontPart path)

/-- Writes the working directory. -/
def pwd : Work Unit := do
  putLine (Text.ofBytes (← get).call.cwd.path)

end CheckoutLint.Utility.Location
