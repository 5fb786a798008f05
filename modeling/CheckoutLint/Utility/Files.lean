import CheckoutLint.Utility.Options

/-!
Utilities that make and remove files.
-/

namespace CheckoutLint.Utility.Files

/-- Says that something cannot be done to a path. -/
def warnAt (what : String) (path : Text) (cause : SystemError) : Work Unit := do
  warn (what.toList ++ ' ' :: Shown.always path ++ ": ".toList ++ cause.reason)
  mark 1

/-- Ends the utility if it has no operands. -/
def needOperands (what : String) (operands : List Text) : Work Unit := do
  if operands.isEmpty then misuse 1 ("missing ".toList ++ what.toList)

/-- Lets the host try something from the working directory. -/
def tryAt (act : Host → Place → Option SystemError × Host) : Work (Option SystemError) := do
  let cwd := (← get).call.cwd
  onHost fun host => act host cwd

/-- What a path names; a link at its end is followed if so wanted. -/
def find (follow : Bool) (path : Text) : Work (Except SystemError (Place × Node)) := do
  let task ← get
  return task.host.find follow task.call.cwd path

/-! ## Removing -/

/-- Removes what a path names. -/
def remove (force recursive : Bool) (path : Text) : Work Unit := do
  let last := (Path.names path).getLast?
  match ← find false path with
  | .error cause =>
    unless force && (cause = .missing || cause = .notDirectory) do
      warnAt "cannot remove" path cause
  | .ok (place, .directory _) =>
    if !recursive then warnAt "cannot remove" path .isDirectory
    else if last = some ['.'] || last = some ['.', '.'] then
      warn ("refusing to remove '.' or '..' directory: skipping ".toList ++ Shown.always path)
      mark 1
    else if place.isEmpty then
      warn "it is dangerous to operate recursively on '/'".toList
      warn "use --no-preserve-root to override this failsafe".toList
      mark 1
    else onHost fun host => ((), host.erase place)
  | .ok (place, _) => onHost fun host => ((), host.erase place)

/-- Removes files. -/
def rm : Work Unit := do
  let manner : Options.Manner := { flags := "frR" }
  let taken ← manner.ofCall
  unless taken.has 'f' do needOperands "operand" taken.operands
  for path in taken.operands do remove (taken.has 'f') (taken.has 'r' || taken.has 'R') path

/-! ## Making -/

/-- The paths of the directories on the way of a path, the outermost first. -/
def parents (path : Text) : List Text :=
  let front : Text := if Path.isAbsolute path then ['/'] else []
  let names := Path.names path
  (List.range names.length).map fun n => front ++ Text.joinWith ['/'] (names.take (n + 1))

/-- Makes those directories that are missing, up to the first that cannot be made. -/
def makeAll : List Text → Work Unit
  | [] => return
  | directory :: rest => do
    match ← find true directory with
    | .ok (_, .directory _) => makeAll rest
    | .ok _ =>
      warnAt "cannot create directory" directory
        (if rest.isEmpty then .present else .notDirectory)
    | .error _ =>
      match ← tryAt fun host cwd => host.makeDirectory cwd directory with
      | none => makeAll rest
      | some cause => warnAt "cannot create directory" directory cause

/-- Makes directories. -/
def mkdir : Work Unit := do
  let manner : Options.Manner := { flags := "p" }
  let taken ← manner.ofCall
  needOperands "operand" taken.operands
  for path in taken.operands do
    if taken.has 'p' then makeAll (parents path)
    else
      if let some cause ← tryAt fun host cwd => host.makeDirectory cwd path then
        warn ("cannot create directory ".toList ++ Shown.exactly path ++ ": ".toList ++
          cause.reason)
        mark 1

/-- Makes files that are missing. -/
def touch : Work Unit := do
  let manner : Options.Manner := { flags := "c" }
  let taken ← manner.ofCall
  needOperands "file operand" taken.operands
  for path in taken.operands do
    match ← find true path with
    | .ok _ => pure ()
    | .error .missing =>
      unless taken.has 'c' do
        let cwd := (← get).call.cwd
        let made ← onHost fun host => host.openPath cwd path { canWrite := true, create := true }
        if let .error cause := made then warnAt "cannot touch" path cause
    | .error cause => warnAt "cannot touch" path cause

end CheckoutLint.Utility.Files
