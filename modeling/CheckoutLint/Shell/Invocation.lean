import CheckoutLint.Shell.Run

/-!
The shell as a program: its arguments say where its script is, how the script is called and with
which arguments.
-/

namespace CheckoutLint.Shell

/-- Where a script is. -/
inductive Origin where
  | argument
  | input
  deriving DecidableEq, Repr

/-- The options in the letters of an argument; one of them says that the script is an argument. -/
def takeFlags (isOn : Bool) : Text → List Text → Origin → Sh (List Text × Origin)
  | [], arguments, origin => return (arguments, origin)
  | letter :: letters, arguments, origin => do
    if letter = 'c' then takeFlags isOn letters arguments .argument
    else if letter = 'l' then takeFlags isOn letters arguments origin
    else
      let arguments ← Options.setLetters isOn [letter] arguments
      takeFlags isOn letters arguments origin

/-- The options in front of arguments. Takes at most `fuel` steps. -/
def takeAllFlags (fuel : Nat) (arguments : List Text) (origin : Origin) :
    Sh (List Text × Origin) :=
  match fuel, arguments with
  | fuel + 1, (sign :: letters) :: rest => do
    if sign = '-' && (letters.isEmpty || letters = ['-']) then return (rest, origin)
    if sign = '-' || sign = '+' then
      let (rest, origin) ← takeFlags (sign = '-') letters rest origin
      takeAllFlags fuel rest origin
    else return (arguments, origin)
  | _, _ => return (arguments, origin)

/-- The script that is read from the input. -/
def inputScript : Sh Text := do
  match (← get).streams.lookup 0 with
  | none => return []
  | some number => return (← onHost fun host => host.readAll number).toOption.getD []

/-- The text of the script at a path. -/
def scriptAt (path : Text) : Sh Text := do
  match ← readScript path with
  | .ok script => return script
  | .error cause => fail (FileMode.refusal .read path cause)

/-- Runs a shell with its arguments. -/
def Kit.main (kit : Kit) (arguments : List Text) : Sh Unit := do
  let (rest, origin) ← takeAllFlags (arguments.length + 1) arguments .input
  let readsInput := isSet (← get) 's'
  let setArguments (arguments : List Text) : Sh Unit :=
    modify fun shell => { shell with arguments }
  let readInput : Sh Unit := do
    let _ ← kit.script {} (← inputScript)
  match origin, rest with
  | .argument, [] => fail "-c requires an argument".toList
  | .argument, script :: rest =>
    match rest with
    | name :: rest => modify fun shell => { shell with name, arguments := rest }
    | [] => pure ()
    let _ ← kit.script { last := !readsInput } script
    if readsInput then readInput
  | .input, [] =>
    modify fun shell => { shell with options := Options.withOption shell.options 's' true }
    readInput
  | .input, path :: rest =>
    if readsInput then
      setArguments (path :: rest)
      readInput
    else
      let script ← scriptAt path
      modify fun shell => { shell with name := path, arguments := rest }
      let _ ← kit.script {} script

/-- A variable with a value, which programs may see. -/
def known (isExported : Bool) (value : Text) : Variable := { value := some value, isExported }

/-- The variables with which a shell begins: some are its own, and others come from outside. -/
def firstBindings (call : Call) : Bindings :=
  let own : Bindings :=
    [("PS1".toList, known false "# ".toList), ("PS2".toList, known false "> ".toList),
      ("PS4".toList, known false "+ ".toList)]
  let setAll (bindings more : Bindings) : Bindings :=
    more.foldl (fun bindings (name, held) => Entries.set name held bindings) bindings
  let given := call.environment.filter fun entry => isName entry.1
  let all := setAll own (given.map fun (name, value) => (name, known true value))
  setAll all
    [("IFS".toList, known false " \t\n".toList), ("OPTIND".toList, known false ['1']),
      ("PPID".toList, known false (Text.ofNat call.parent))]

/-- The shell of a call. It knows its working directory by the name that it was given for it, if
that is right. -/
def ofCall (isExtended : Bool) (call : Call) (host : Host) : Shell :=
  let bindings := firstBindings call
  let given := ((bindings.lookup "PWD".toList).bind Variable.value).getD []
  let isRight := Path.isAbsolute given &&
    match host.find true [] given with
    | .ok (place, _) => place == call.cwd
    | .error _ => false
  let directory := if isRight then given else Directory.textOf call.cwd
  { host, directory, isExtended
    name := call.name
    bindings := Entries.set "PWD".toList (known true directory) bindings
    streams := call.streams
    cwd := call.cwd
    ignored := call.ignored
    process := call.process
    mainProcess := call.process
    parent := call.parent }

/-- Runs the shell as a program. -/
def run (isExtended : Bool) (launch : Launch) (call : Call) (host : Host) : Ending × Host :=
  (kit launch).conclude ((kit launch).main call.arguments) (ofCall isExtended call host)

end CheckoutLint.Shell
