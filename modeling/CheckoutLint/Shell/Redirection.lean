import CheckoutLint.Shell.Expansion

/-!
Redirections. Their targets are expanded first; then they change the streams one after the other, so
that what is wrong with one of them is already written to where the ones before it lead.
-/

namespace CheckoutLint.Shell

/-- A redirection whose target is known. -/
inductive Change where
  | file (stream : Nat) (mode : FileMode) (path : Text)
  | copy (stream source : Nat)
  | close (stream : Nat)
  /-- The stream reads a text. -/
  | document (stream : Nat) (content : Word)

/-- Stops because what a stream is to be a second name of is no stream. -/
def failAtStream {α : Type} : Sh α := do
  modify fun shell => { shell with line := shell.readLine }
  fail "Syntax error: Bad fd number".toList

/-- A redirection with its target expanded. -/
def expandRedirect (run : Option Command → Sh Text) : Redirect → Sh Change
  | .file stream mode target => return .file stream mode (← expandText run .atFront target)
  | .duplicate stream _ target => do
    match ← expandText run .atFront target with
    | ['-'] => return .close stream
    | text =>
      if text.length != 1 || !text.all Char.isDigit then failAtStream
      return .copy stream (Conversion.ofDigits 10 text)
  | .document stream number =>
    return .document stream (((← get).documents.lookup number).getD [])

/-- Redirections with their targets expanded. -/
def expandRedirects (run : Option Command → Sh Text) : List Redirect → Sh (List Change)
  | [] => return []
  | redirect :: redirects => do
    let first ← expandRedirect run redirect
    return first :: (← expandRedirects run redirects)

/-- How a file is opened in a mode. -/
def FileMode.access : FileMode → Host.Access
  | .read => { canRead := true }
  | .write _ => { canWrite := true, create := true, empty := true }
  | .append => { canWrite := true, create := true, atEnd := true }
  | .readWrite => { canRead := true, canWrite := true, create := true }

/-- What is said about a file that cannot be opened in a mode. -/
def FileMode.refusal (mode : FileMode) (path : Text) (cause : SystemError) : Text :=
  let isAbsent := cause = .missing ∨ cause = .notDirectory
  match mode with
  | .read =>
    "cannot open ".toList ++ path ++ ": ".toList ++
      if isAbsent then "No such file".toList else cause.reason
  | _ =>
    "cannot create ".toList ++ path ++ ": ".toList ++
      if isAbsent then "Directory nonexistent".toList else cause.reason

/-- Stops because a file cannot be opened in a mode. -/
def FileMode.refuse {α : Type} (mode : FileMode) (path : Text) (cause : SystemError) : Sh α :=
  fail (mode.refusal path cause)

/-- Whether a file is in the way that is to be kept. -/
def isKept (shell : Shell) (mode : FileMode) (path : Text) : Bool :=
  mode == .write false && isSet shell 'C' &&
    match shell.host.find true shell.cwd path with
    | .ok (_, .file _ _) => true
    | _ => false

/-- Makes a stream stand for a file. -/
def pointTo (stream number : Nat) : Sh Unit :=
  modify fun shell => { shell with streams := redirectTo shell.streams stream number }

/-- Changes a stream. -/
def Change.apply (run : Option Command → Sh Text) : Change → Sh Unit
  | .file stream mode path => do
    let shell ← get
    if isKept shell mode path then mode.refuse path .present
    match ← onHost fun host => host.openFor shell.streams shell.cwd path mode.access with
    | .ok number => pointTo stream number
    | .error cause => mode.refuse path cause
  | .copy stream source => do
    match (← get).streams.lookup source with
    | some number => pointTo stream number
    | none => fail (Text.ofNat source ++ ": ".toList ++ SystemError.badStream.reason)
  | .close stream =>
    modify fun shell => { shell with streams := closeStream shell.streams stream }
  | .document stream content => do
    let text := joinParts (← expandPieces run false false .nowhere content)
    pointTo stream (← onHost fun host => host.add (.supply text false))

/-- Changes streams one after the other. -/
def applyChanges (run : Option Command → Sh Text) : List Change → Sh Unit
  | [] => return
  | change :: changes => do
    change.apply run
    applyChanges run changes

/-- Changes streams; gives the status of an error, after which they are as they were. -/
def redirect (run : Option Command → Sh Text) (changes : List Change) : Sh Nat := do
  let kept := (← get).streams
  try
    applyChanges run changes
    return 0
  catch stop =>
    modify fun shell => { shell with streams := kept }
    if stop = .failed then return (← get).status
    throw stop

end CheckoutLint.Shell
