import CheckoutLint.Host.Files
import CheckoutLint.Shell.Grammar
import CheckoutLint.Shell.Items

/-!
The state of a shell: its variables, functions and streams, and how it goes on. What the shell
writes itself is held back until the command that writes it is done; errors are written at once.
-/

namespace CheckoutLint.Shell

/-! ## Variables -/

/-- A variable; it may be known without having a value. -/
structure Variable where
  value : Option Text := none
  isExported : Bool := false
  isReadonly : Bool := false
  /-- The elements, if the variable is a list. -/
  items : Option Items := none
  deriving DecidableEq, Repr, Inhabited

/-- The value of a variable; that of a list is its first element. -/
def Variable.text? (held : Variable) : Option Text :=
  match held.items with
  | some items => items.lookup 0
  | none => held.value

/-- A variable set to a value; of a list, the first element is set. -/
def Variable.withText (held : Variable) (value : Text) : Variable :=
  match held.items with
  | some items => { held with items := some (items.insert 0 value) }
  | none => { held with value := some value }

/-- The elements of a variable; one that is no list has its value for the first one. -/
def Variable.list (held : Variable) : Items := held.items.getD (Items.append [] held.value.toList)

/-- Variables by name. -/
abbrev Bindings := List (Text × Variable)

/-! ## State -/

/-- Whether commands are passed over, and up to where. -/
inductive Skip where
  | nothing
  /-- Up to the end of so many loops. -/
  | leaving (loops : Nat)
  /-- Up to the next turn of the last of so many loops. -/
  | repeating (loops : Nat)
  /-- Up to the end of the function or the script, with or without a status of its own. -/
  | returning (isGiven : Bool)
  deriving DecidableEq, Repr

/-- A function: the line and the command of its definition. -/
structure Function where
  line : Nat
  body : Command
  deriving Inhabited

/-- A command that nothing has waited for yet. -/
structure Job where
  process : Nat
  /-- How it ended, if that is known. -/
  ending : Option Ending
  /-- Whether something has waited for it. -/
  isWaited : Bool := false
  /-- What it still has to do. -/
  work : Host → Ending × Host

end Shell

/-- The state of a shell. -/
structure Shell where
  host : Host
  /-- Whether its language is the extended one. -/
  isExtended : Bool := false
  /-- The name under which the script runs. -/
  name : Text
  arguments : List Text := []
  bindings : Shell.Bindings := []
  functions : List (Text × Shell.Function) := []
  aliases : List (Text × Text) := []
  /-- The texts that scripts hold, by their numbers. -/
  documents : List (Nat × Shell.Word) := []
  nextDocument : Nat := 0
  streams : Streams := []
  cwd : Place := []
  /-- The letters of the options that are set. -/
  options : List Char := []
  /-- What is done about signals; nothing is done about one with an empty text. -/
  traps : List (Nat × Text) := []
  /-- Signals that have come, and about which something is still to be done. -/
  arrived : List Nat := []
  /-- The signals that were not minded from the start. -/
  ignored : List Nat := []
  status : Nat := 0
  /-- The status with which the shell ends that is to end without naming one. -/
  heldStatus : Option Nat := none
  /-- The status of the last script whose output was taken. -/
  outputStatus : Nat := 0
  skip : Shell.Skip := .nothing
  /-- How many loops are being run. -/
  loops : Nat := 0
  /-- How many functions are being run. -/
  depth : Nat := 0
  /-- The line of the command that is being run. -/
  line : Nat := 0
  /-- The line up to which the script has been read. -/
  readLine : Nat := 1
  /-- The command that messages name. -/
  speaker : Text := []
  /-- What variables were before they became local, by function, the innermost first. -/
  scopes : List (List (Text × Option Shell.Variable)) := []
  jobs : List Shell.Job := []
  /-- What has been written but not sent yet, newest first. -/
  buffer : List Text := []
  /-- The process, that of the shell of which it is a part, and the one that started that. -/
  process : Nat := 0
  mainProcess : Nat := 0
  parent : Nat := 1
  /-- The working directory as the shell was led there. -/
  directory : Text := ['/']

namespace Shell

/-- Why a shell does not go on. -/
inductive Stop where
  /-- An error that ends a shell which is not asked for commands. -/
  | failed
  /-- The shell was to end. -/
  | ended
  /-- A signal has ended the process. -/
  | signalled (number : Nat)
  /-- The process has become another program, which has ended with a status. -/
  | replaced (status : Nat)
  deriving DecidableEq, Repr

end Shell

/-- What a shell does. -/
abbrev Sh := EStateM Shell.Stop Shell

namespace Shell

/-! ## Messages -/

/-- Lets the host do something. The shell gives its host away while that is done. -/
def onHost {α : Type} (act : Host → α × Host) : Sh α :=
  modifyGet fun shell =>
    let host := shell.host
    let away := { shell with host := Host.absent }
    let (result, host) := act host
    (result, { away with host })

/-- Whether nothing is done about a signal. -/
def minds (shell : Shell) (signal : Nat) : Bool :=
  !(shell.traps.lookup signal == some [] || shell.ignored.contains signal)

/-- Writes to a stream; gives why that is impossible, if so. A process that writes what nobody reads
is ended by that. -/
def send (stream : Nat) (text : Text) : Sh (Option SystemError) := do
  let shell ← get
  match shell.streams.lookup stream with
  | none => return some .badStream
  | some number =>
    let problem ← onHost fun host => host.write number text
    if problem = some .brokenPipe && minds shell 13 then throw (.signalled 13)
    return problem

/-- Writes a message as it is. -/
def report (text : Text) : Sh Unit := do
  let _ ← send 2 text

/-- Writes a message about a line of the script. -/
def complain (message : Text) : Sh Unit := do
  let shell ← get
  let speaker := if shell.speaker.isEmpty then [] else shell.speaker ++ ": ".toList
  let place := (if shell.isExtended then "line " else "").toList ++ Text.ofNat shell.line
  report (shell.name ++ ": ".toList ++ place ++ ": ".toList ++ speaker ++ message ++ ['\n'])

/-- Stops with a message. -/
def fail {α : Type} (message : Text) : Sh α := do
  complain message
  modify fun shell => { shell with status := 2 }
  throw .failed

/-- Writes a message to the errors, without saying where. -/
def mutter (text : Text) : Sh Unit := report (text ++ ['\n'])

/-- Writes to the output, once the command is done. -/
def say (text : Text) : Sh Unit :=
  modify fun shell => { shell with buffer := text :: shell.buffer }

/-- Sends what has been written; gives why that is impossible, if so. -/
def flush : Sh (Option SystemError) := do
  let shell ← get
  let text := shell.buffer.reverse.flatten
  set { shell with buffer := [] }
  if text.isEmpty then return none
  send 1 text

/-! ## Options and variables -/

/-- Whether an option is set. -/
def isSet (shell : Shell) (letter : Char) : Bool := shell.options.contains letter

/-- The variable of a name. -/
def bound? (shell : Shell) (name : Text) : Option Variable := shell.bindings.lookup name

/-- The value of a variable. -/
def value? (shell : Shell) (name : Text) : Option Text :=
  (shell.bound? name).bind Variable.text?

/-- The value of a variable that is named in this program. -/
def valueOf (shell : Shell) (name : String) : Text := (shell.value? name.toList).getD []

/-- Changes a variable, which must not be protected. -/
def changeVariable (name : Text) (change : Variable → Variable) : Sh Unit := do
  let shell ← get
  let old := (shell.bound? name).getD {}
  if old.isReadonly then fail (name ++ ": is read only".toList)
  let new := change old
  let new := if isSet shell 'a' && new.value.isSome then { new with isExported := true } else new
  set { shell with bindings := Entries.set name new shell.bindings }

/-- Sets a variable. -/
def assign (name value : Text) : Sh Unit :=
  changeVariable name fun old => old.withText value

/-- Takes a variable away. -/
def unassign (name : Text) : Sh Unit := do
  changeVariable name id
  modify fun shell => { shell with bindings := Entries.erase name shell.bindings }

/-- The characters at which fields are split. -/
def separators (shell : Shell) : Text := (shell.value? "IFS".toList).getD " \t\n".toList

/-- The shelf on which a variable is kept. -/
def shelf (name : Text) : Nat :=
  let front := (name.head?.map fun c => 16 * c.toNat).getD 0
  name.foldl (fun sum c => sum + c.toNat) front % 39

/-- What the programs see of the variables: shelf by shelf, and on each the oldest first. -/
def environment (shell : Shell) : List (Text × Text) :=
  let seen := shell.bindings.filterMap fun (name, held) =>
    if held.isExported && held.items.isNone then held.value.map fun value => (name, value)
    else none
  seen.mergeSort fun a b => decide (shelf a.1 ≤ shelf b.1)

/-! ## Scopes -/

/-- Notes what a variable is, to become so again at the end of the scope. -/
def keep (name : Text) : Sh Unit :=
  modify fun shell =>
    match shell.scopes with
    | [] => shell
    | scope :: scopes =>
      if scope.any fun entry => entry.1 == name then shell
      else { shell with scopes := ((name, shell.bound? name) :: scope) :: scopes }

/-- Begins a scope. -/
def openScope : Sh Unit := modify fun shell => { shell with scopes := [] :: shell.scopes }

/-- Gives a variable back what it was. -/
def restore (bindings : Bindings) (entry : Text × Option Variable) : Bindings :=
  match entry.2 with
  | some old => Entries.set entry.1 old bindings
  | none => Entries.erase entry.1 bindings

/-- Ends a scope. -/
def closeScope : Sh Unit :=
  modify fun shell =>
    match shell.scopes with
    | [] => shell
    | scope :: scopes =>
      { shell with scopes, bindings := scope.foldl restore shell.bindings }

/-! ## Streams -/

/-- Makes a stream stand for an open file. -/
def redirectTo (streams : Streams) (stream number : Nat) : Streams :=
  (stream, number) :: Entries.erase stream streams

/-- Closes a stream. -/
def closeStream (streams : Streams) (stream : Nat) : Streams :=
  Entries.erase stream streams

/-- Does something with other streams. -/
def withStreams {α : Type} (streams : Streams) (act : Sh α) : Sh α := do
  let kept := (← get).streams
  modify fun shell => { shell with streams }
  try
    let result ← act
    modify fun shell => { shell with streams := kept }
    return result
  catch stop =>
    modify fun shell => { shell with streams := kept }
    throw stop

end Shell

end CheckoutLint
