import CheckoutLint.Host.Condition
import CheckoutLint.Text.Shown

/-!
Utilities: small programs that read files, write to their output, and say on their error stream
what went wrong. What a utility writes is held back until there is enough of it or it ends; messages
are written at once.
-/

namespace CheckoutLint

namespace Utility

/-- A utility at work. -/
structure Task where
  call : Call
  host : Host
  /-- What has been written but not sent yet, newest first. -/
  buffer : List Text := []
  /-- How long that is. -/
  pending : Nat := 0
  /-- Why something could not be written. -/
  writeError : Option SystemError := none
  /-- The status with which the utility is going to end. -/
  status : Nat := 0
  /-- The status with which it ends if nothing can be written. -/
  trouble : Nat := 1

/-- What a utility does. It may end early. -/
abbrev Work := EStateM Ending Task

/-- A utility, given what runs further programs. -/
abbrev Program := Launch → Work Unit

/-! ## The host -/

/-- Lets the host do something. -/
def onHost {α : Type} (act : Host → α × Host) : Work α :=
  modifyGet fun task =>
    let host := task.host
    let away := { task with host := Host.absent }
    let (result, host) := act host
    (result, { away with host })

/-- Writes to a stream at once; gives why that is impossible, if so. A utility that writes what
nobody reads is ended by that. -/
def send (stream : Nat) (text : Text) : Work (Option SystemError) := do
  let call := (← get).call
  match call.streams.lookup stream with
  | none => return some .badStream
  | some number =>
    let problem ← onHost fun host => host.write number text
    if problem = some .brokenPipe && !call.ignored.contains 13 then throw (.signalled 13)
    return problem

/-- Sends what has been written. -/
def flush : Work Unit := do
  let task ← get
  unless task.buffer.isEmpty do
    set { task with buffer := [], pending := 0 }
    let problem ← send 1 task.buffer.reverse.flatten
    if problem.isSome then modify fun task => { task with writeError := problem }

/-- How much is held back. -/
def bufferSize : Nat := 4096

/-- Writes to the output. -/
def put (text : Text) : Work Unit := do
  unless text.isEmpty do
    modify fun task =>
      { task with buffer := text :: task.buffer, pending := task.pending + text.length }
    if bufferSize ≤ (← get).pending then flush

/-- Writes a line to the output. -/
def putLine (text : Text) : Work Unit := put (text ++ ['\n'])

/-! ## Messages -/

/-- The name by which the utility was called. -/
def ownName : Work Text := return (← get).call.name

/-- Writes to the errors as it is. -/
def report (text : Text) : Work Unit := do
  let _ ← send 2 text

/-- Writes a message, behind what has been written before. -/
def warn (message : Text) : Work Unit := do
  flush
  report ((← ownName) ++ ": ".toList ++ message ++ ['\n'])

/-- Notes that the utility is not going to end well. -/
def mark (status : Nat) : Work Unit :=
  modify fun task => { task with status := max status task.status }

/-- Says with which status the utility ends if nothing can be written. -/
def inTrouble (status : Nat) : Work Unit := modify fun task => { task with trouble := status }

/-- Ends the utility. -/
def exit {α : Type} (status : Nat) : Work α := do
  flush
  throw (.exited status)

/-- Writes a message and ends the utility. -/
def fail {α : Type} (status : Nat) (message : Text) : Work α := do
  warn message
  exit status

/-- Writes a message about a file, and notes that the utility is not going to end well. -/
def warnOf (path : Text) (cause : SystemError) : Work Unit := do
  warn (Shown.name path ++ ": ".toList ++ cause.reason)
  mark 1

/-- What the last line of a message about misuse says. -/
def hint : Work Unit := do
  report ("Try '".toList ++ (← ownName) ++ " --help' for more information.\n".toList)

/-- Says what is wrong with how the utility was called, and ends it. -/
def misuse {α : Type} (status : Nat) (message : Text) : Work α := do
  warn message
  hint
  exit status

/-! ## Reading -/

/-- All that a path holds; a dash stands for the input. -/
def readInput (path : Text) : Work (Except SystemError Text) := do
  let call := (← get).call
  if path = ['-'] then
    match call.streams.lookup 0 with
    | some number => onHost fun host => host.readAll number
    | none => return .error .badStream
  else onHost fun host => host.readPath call.streams call.cwd path

/-- The paths of the given files, or that of the input if there are none. -/
def pathsOr (paths : List Text) : List Text := if paths.isEmpty then [['-']] else paths

/-- Does something with all that each of the given paths holds, or with the input if there are none.
What cannot be read is reported and passed over. -/
def eachInput (paths : List Text) (act : Text → Work Unit) : Work Unit := do
  for path in pathsOr paths do
    match ← readInput path with
    | .ok text => act text
    | .error cause => warnOf path cause

/-- Notes that what is written depends on the end of what has been read. -/
def needEnd : Work Unit :=
  onHost fun host => ((), { host with isSpoiled := host.isSpoiled || host.isStarved })

/-- The lines of a text without their ends; what follows the last end is a line if it is not empty.
-/
def linesOf (text : Text) : List Text :=
  let pieces := Text.splitAt '\n' text
  if pieces.getLast? = some [] then pieces.dropLast else pieces

/-! ## Ending -/

/-- Runs a utility. What it has written is sent in the end; if that is impossible, it says so. -/
def run (work : Work Unit) (call : Call) (host : Host) : Ending × Host :=
  let begun : Task := { call, host }
  let close : Work Unit := do
    flush
    match (← get).writeError with
    | some cause =>
      warn ("write error: ".toList ++ cause.reason)
      mark (← get).trouble
    | none => return
  let finish (task : Task) : Ending × Host :=
    match close task with
    | .ok _ task => (.exited task.status, task.host)
    | .error ending task => (ending, task.host)
  match work begun with
  | .ok _ task => finish task
  | .error (.exited status) task => finish { task with status }
  | .error ending task => (ending, task.host)

end Utility

end CheckoutLint
