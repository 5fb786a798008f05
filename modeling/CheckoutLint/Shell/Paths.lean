import CheckoutLint.Host.Files
import CheckoutLint.Shell.Pattern

/-!
Patterns for paths. A pattern is matched name by name; a name that begins with a dot is matched only
by a pattern that begins with one.
-/

namespace CheckoutLint.Shell

/-- Whether some character is one of a pattern. -/
def isPattern (field : Marked) : Bool :=
  field.any fun (c, quoted) => !quoted && (c = '*' || c = '?' || c = '[')

/-- The text of characters. -/
def textOf (field : Marked) : Text := field.map (·.1)

/-- The parts of a field between its slashes. -/
def components : Marked → List Marked
  | [] => [[]]
  | (c, quoted) :: rest =>
    if c = '/' then [] :: components rest
    else
      match components rest with
      | [] => [[(c, quoted)]]
      | part :: parts => ((c, quoted) :: part) :: parts

/-- The names that a pattern covers in the directory that a path leads to. -/
def namesCovered (host : Host) (cwd : Place) (directory : Text) (part : Marked) : List Text :=
  let pattern := Pattern.ofMarked part
  let directory := if directory.isEmpty then ['.'] else directory
  match host.names cwd directory with
  | .error _ => []
  | .ok names =>
    let isHidden := part.head?.any fun entry => entry.1 = '.'
    let names := if isHidden then ['.'] :: ['.', '.'] :: names else names
    (names.filter fun name => (isHidden || name.head? != some '.') && pattern.covers name)

/-- The paths that lead on from one through the parts of a pattern. -/
def pathsFrom (host : Host) (cwd : Place) (path : Text) : List Marked → List Text
  | [] => []
  | part :: parts =>
    let names :=
      if isPattern part then namesCovered host cwd path part else [textOf part]
    match parts with
    | [] => (names.map (path ++ ·)).filter fun path => (host.find false cwd path).toBool
    | _ :: _ => names.flatMap fun name => pathsFrom host cwd (path ++ name ++ ['/']) parts

/-- The paths that a pattern leads to, in order. -/
def pathsOf (host : Host) (cwd : Place) (field : Marked) : List Text :=
  (pathsFrom host cwd [] (components field)).mergeSort Text.isAtMost

end CheckoutLint.Shell
