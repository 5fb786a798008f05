import CheckoutLint.Shell.Builtin.Arguments
import CheckoutLint.Shell.Signal

/-!
The shell's own commands for signals and for the commands that it does not wait for: sending
signals, saying what is done about them, and waiting.
-/

namespace CheckoutLint.Shell.Signals

/-! ## Arriving -/

/-- Takes a signal: it is passed over, noted, or ends the process. -/
def arrive (signal : Nat) : Sh Unit := do
  let shell ← get
  if Signal.isFinal signal then throw (.signalled signal)
  match shell.traps.lookup signal with
  | some [] => return
  | some _ => set { shell with arrived := shell.arrived ++ [signal] }
  | none =>
    unless shell.ignored.contains signal || Signal.isHarmless signal do throw (.signalled signal)

/-- Takes the signals that others have sent. -/
def collect : Sh Unit := do
  let shell ← get
  if shell.host.sent.isEmpty then return
  let (mine, others) := shell.host.sent.partition fun entry => entry.1 == shell.process
  set { shell with host := { shell.host with sent := others } }
  for entry in mine do arrive entry.2

/-! ## Commands without waiting -/

/-- Lets a command come to its end. -/
def finish (process : Nat) : Sh (Option Ending) := do
  match (← get).jobs.find? fun job => job.process == process with
  | none => return none
  | some job =>
    match job.ending with
    | some ending => return some ending
    | none =>
      let ending ← onHost job.work
      let change (other : Job) : Job :=
        if other.process == process then { other with ending := some ending } else other
      modify fun shell => { shell with jobs := shell.jobs.map change }
      return some ending

/-- Lets all commands come to their ends. -/
def finishAll : Sh Unit := do
  for job in (← get).jobs.reverse do
    let _ ← finish job.process

/-- The process that a text means: a number, or a command by its place. -/
def processOf (text : Text) : Sh Nat := do
  let jobs := (← get).jobs
  match text with
  | '%' :: rest =>
    let found :=
      match (String.ofList rest).toNat? with
      | some (n + 1) => jobs.reverse[n]?
      | some 0 => none
      | none => if rest.isEmpty || rest = ['%'] || rest = ['+'] then jobs.head? else none
    match found with
    | some job => return job.process
    | none => fail ("No such job: ".toList ++ text)
  | _ => smallNumber text

/-- Waits for a command; gives its status. That a signal has ended it is said once. -/
def waitFor (text : Text) : Sh Nat := do
  let process ← processOf text
  let isNew := (← get).jobs.any fun job => job.process == process && !job.isWaited
  match ← finish process with
  | none => return 127
  | some ending =>
    let change (job : Job) : Job :=
      if job.process == process then { job with isWaited := true } else job
    modify fun shell => { shell with jobs := shell.jobs.map change }
    match ending with
    | .signalled number => if isNew then report (Signal.remark number)
    | .exited _ => pure ()
    return ending.status

/-- Waits for commands, or for all. -/
def wait (arguments : List Text) : Sh Nat := do
  let (_, names) ← takeOptions "" arguments
  if names.isEmpty then
    finishAll
    return 0
  let mut status := 0
  for name in names do status ← waitFor name
  return status

/-! ## Sending -/

/-- Sends a signal to a process; gives whether there is one. -/
def deliver (process signal : Nat) : Sh Bool := do
  let shell ← get
  if process = shell.process then
    if signal != 0 then arrive signal
    return true
  match shell.jobs.find? fun job => job.process == process with
  | some job =>
    if job.ending.isSome then return false
    unless Signal.isHarmless signal do
      let change (other : Job) : Job :=
        if other.process == process then { other with ending := some (.signalled signal) }
        else other
      set { shell with jobs := shell.jobs.map change }
    return true
  | none =>
    if process = shell.mainProcess || process = shell.parent then
      if signal != 0 then
        let sent := shell.host.sent ++ [(process, signal)]
        set { shell with host := { shell.host with sent } }
      return true
    return false

/-- Lists the names of signals, or names one by its number or by a status. -/
def listNames (arguments : List Text) : Sh Nat := do
  match arguments with
  | [] =>
    say "0\n".toList
    for name in Signal.names.tail do say (name ++ ['\n'])
  | text :: _ =>
    let number ← smallNumber text
    let number := if 128 < number then number - 128 else number
    if 0 < number && number < Signal.names.length then say (Signal.name number ++ ['\n'])
    else fail ("invalid signal number or exit status: ".toList ++ text)
  return 0

/-- What is said to one who does not know how to send signals. -/
def usage : Text :=
  ("Usage: kill [-s sigspec | -signum | -sigspec] [pid | job]... or\n" ++
    "kill -l [exitstatus]").toList

/-- Sends a signal to processes. -/
def send (arguments : List Text) : Sh Nat := do
  if arguments.isEmpty then fail usage
  let named :=
    match arguments with
    | ('-' :: text) :: _ => Signal.ofName? 1 text
    | _ => none
  let (options, targets) ←
    if named.isSome then pure ([], arguments.tail) else takeOptions "ls:" arguments
  let mut signal := named
  for (letter, text) in options do
    if letter = 's' then
      signal := Signal.ofName? 1 text
      if signal.isNone then fail ("invalid signal number or name: ".toList ++ text)
  if options.any fun option => option.1 = 'l' then
    if signal.isSome then fail usage
    listNames targets
  else
    if targets.isEmpty then fail usage
    let mut status := 0
    for target in targets do
      let process ← processOf target
      unless ← deliver process (signal.getD Signal.usual) do
        complain "No such process\n".toList
        status := 1
    return status

/-! ## What is done about signals -/

/-- What is done about signals, with one of them changed. -/
def setTrap (signal : Nat) (action : Option Text) (traps : List (Nat × Text)) :
    List (Nat × Text) :=
  let others := Entries.erase signal traps
  match action with
  | some text => (signal, text) :: others
  | none => others

/-- Lists what is done about signals. -/
def listTraps : Sh Unit := do
  let traps := (← get).traps.mergeSort fun a b => decide (a.1 ≤ b.1)
  for (signal, text) in traps do
    say ("trap -- ".toList ++ singleQuoted text ++ ' ' :: Signal.name signal ++ ['\n'])

/-- Says what is done about signals. -/
def trap (arguments : List Text) : Sh Nat := do
  let (_, rest) ← takeOptions "" arguments
  match rest with
  | [] =>
    listTraps
    return 0
  | first :: others =>
    let isReset := others.isEmpty || (Signal.ofNumber? first).isSome
    let action := if isReset || first = ['-'] then none else some first
    for name in if isReset then rest else others do
      match Signal.ofName? 0 name with
      | some signal =>
        modify fun shell => { shell with traps := setTrap signal action shell.traps }
      | none =>
        mutter ("trap: ".toList ++ name ++ ": bad trap".toList)
        return 1
    return 0

end CheckoutLint.Shell.Signals
