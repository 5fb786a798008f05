import CheckoutLint.Shell.Builtin.Arguments

/-!
The shell's own commands for its working directory. The shell remembers how it was led there: two
dots take back the last name of that, even if it was a link.
-/

namespace CheckoutLint.Shell.Directory

/-- Names without dots, of which two take back the name before; newest first behind some. -/
def shorten (read : List Text) : List Text → List Text
  | [] => read
  | name :: names =>
    if name = ['.'] then shorten read names
    else if name = ['.', '.'] then shorten read.tail names
    else shorten (name :: read) names

/-- An absolute path in its short form. -/
def normalized (path : Text) : Text :=
  '/' :: Text.joinWith ['/'] (shorten [] (Path.names path)).reverse

/-- The octet text of a place. -/
def textOf (place : Place) : Text := Text.ofBytes place.path

/-- Goes to a directory; gives whether that was possible. -/
def goTo (physical : Bool) (path : Text) : Sh Bool := do
  let shell ← get
  let whole := if Path.isAbsolute path then path else shell.directory ++ '/' :: path
  let target := if physical then path else normalized whole
  match shell.host.find true shell.cwd target with
  | .ok (place, .directory _) =>
    let directory := if physical then textOf place else target
    let mark (value : Text) (old : Variable) : Variable :=
      { old with value := some value, isExported := true }
    changeVariable "OLDPWD".toList (mark shell.directory)
    changeVariable "PWD".toList (mark directory)
    modify fun shell => { shell with cwd := place, directory }
    return true
  | _ => return false

/-- The paths that are tried for a directory, each with whether it is to be written. -/
def candidates (shell : Shell) (path : Text) : List (Text × Bool) :=
  let first := (Path.names path).head?
  if Path.isAbsolute path || first = some ['.'] || first = some ['.', '.'] then [(path, false)]
  else
    let places := Text.splitAt ':' (shell.valueOf "CDPATH")
    let inPlaces := places.map fun place =>
      if place.isEmpty then (path, false) else (Path.join place path, true)
    (inPlaces.filter fun entry => shell.host.isDirectory shell.cwd entry.1) ++ [(path, false)]

/-- Changes the working directory. -/
def change (arguments : List Text) : Sh Nat := do
  let (options, rest) ← takeOptions "LP" arguments
  let physical := (options.getLast?).any fun option => option.1 = 'P'
  let shell ← get
  let wanted := rest.headD (shell.valueOf "HOME")
  let back := wanted = ['-']
  let path := if back then shell.valueOf "OLDPWD" else wanted
  let path := if path.isEmpty then ['.'] else path
  match candidates shell path with
  | (candidate, isElsewhere) :: _ =>
    if ← goTo physical candidate then
      if back || isElsewhere then say ((← get).directory ++ ['\n'])
      return 0
  | [] => pure ()
  fail ("can't cd to ".toList ++ if back then path else wanted)

/-- Writes the working directory. -/
def print (arguments : List Text) : Sh Nat := do
  let (options, _) ← takeOptions "LP" arguments
  let physical := (options.getLast?).any fun option => option.1 = 'P'
  let shell ← get
  say ((if physical then textOf shell.cwd else shell.directory) ++ ['\n'])
  return 0

end CheckoutLint.Shell.Directory
