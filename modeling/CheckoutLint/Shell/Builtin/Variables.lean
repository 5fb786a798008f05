import CheckoutLint.Shell.Builtin.Arguments

/-!
The shell's own commands for variables and aliases: protecting, exporting, hiding, removing and
listing them.
-/

namespace CheckoutLint.Shell.Variables

/-! ## Listing -/

/-- Variables in the order of their names. -/
def ordered (bindings : Bindings) : Bindings :=
  bindings.mergeSort fun a b => Text.isAtMost a.1 b.1

/-- A line about a variable, behind a word. -/
def shown (front : Text) (entry : Text × Variable) : Text :=
  let value :=
    match entry.2.value with
    | some value => '=' :: singleQuoted value
    | none => []
  front ++ entry.1 ++ value ++ ['\n']

/-- Lists the variables that fulfil a condition. -/
def list (front : Text) (holds : Variable → Bool) : Sh Nat := do
  let shell ← get
  for entry in ordered shell.bindings do
    if holds entry.2 then say (shown front entry)
  return 0

/-- Lists all variables that have values. -/
def listAll : Sh Nat := list [] fun held => held.value.isSome

/-! ## Marking -/

/-- Sets a variable as an argument says, which may be a name alone, and changes it further. -/
def setAndMark (mark : Variable → Variable) (argument : Text) : Sh Unit := do
  let name := argument.takeWhile (· ≠ '=')
  match argument.drop name.length with
  | _ :: value =>
    checkName name
    changeVariable name fun old => mark { old with value := some value }
  | [] =>
    let shell ← get
    match shell.bound? name with
    | some old => set { shell with bindings := Entries.set name (mark old) shell.bindings }
    | none =>
      checkName name
      set { shell with bindings := Entries.set name (mark {}) shell.bindings }

/-- Marks the variables that arguments name, or lists those that are marked. -/
def markAll (word : String) (mark : Variable → Variable) (isMarked : Variable → Bool)
    (arguments : List Text) : Sh Nat := do
  let (options, names) ← takeOptions "p" arguments
  if !options.isEmpty || names.isEmpty then list (word.toList ++ [' ']) isMarked
  else
    for name in names do setAndMark mark name
    return 0

/-- Lets programs see variables. -/
def exportAll : List Text → Sh Nat :=
  markAll "export" (fun held => { held with isExported := true }) Variable.isExported

/-- Protects variables from changes. -/
def protectAll : List Text → Sh Nat :=
  markAll "readonly" (fun held => { held with isReadonly := true }) Variable.isReadonly

/-- Makes variables local to the function that is being run. -/
def makeLocal (arguments : List Text) : Sh Nat := do
  if (← get).depth = 0 then fail "not in a function".toList
  for argument in arguments do
    let name := argument.takeWhile (· ≠ '=')
    checkName name
    keep name
    match argument.drop name.length with
    | _ :: value => assign name value
    | [] => pure ()
  return 0

/-- Takes variables or functions away. -/
def remove (arguments : List Text) : Sh Nat := do
  let (options, names) ← takeOptions "vf" arguments
  let last := (options.getLast?).map (·.1)
  for name in names do
    if last != some 'f' then
      let shell ← get
      checkName name
      if (shell.bound? name).isSome then unassign name
    if last = some 'f' then
      modify fun shell =>
        { shell with functions := Entries.erase name shell.functions }
  return 0

/-! ## Aliases -/

/-- A line about an alias. -/
def aliasLine (entry : Text × Text) : Text :=
  entry.1 ++ '=' :: singleQuoted entry.2 ++ ['\n']

/-- Gives commands further names, or lists these. -/
def setAliases (arguments : List Text) : Sh Nat := do
  if arguments.isEmpty then
    for entry in (← get).aliases.reverse do say (aliasLine entry)
    return 0
  let mut status := 0
  for argument in arguments do
    let name := argument.take 1 ++ (argument.drop 1).takeWhile (· ≠ '=')
    match argument.drop name.length with
    | _ :: value =>
      modify fun shell =>
        { shell with aliases := (name, value) :: Entries.erase name shell.aliases }
    | [] =>
      match (← get).aliases.lookup name with
      | some value => say (aliasLine (name, value))
      | none =>
        mutter ("alias: ".toList ++ name ++ " not found".toList)
        status := 1
  return status

/-- Takes aliases away. -/
def removeAliases (arguments : List Text) : Sh Nat := do
  let (options, names) ← takeOptions "a" arguments
  if !options.isEmpty then
    modify fun shell => { shell with aliases := [] }
    return 0
  let mut status := 0
  for name in names do
    let shell ← get
    if (shell.aliases.lookup name).isSome then
      set { shell with aliases := Entries.erase name shell.aliases }
    else
      mutter ("unalias: ".toList ++ name ++ " not found".toList)
      status := 1
  return status

end CheckoutLint.Shell.Variables
