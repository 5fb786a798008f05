import CheckoutLint.Shell.Builtin.Signals
import CheckoutLint.Shell.Redirection

/-!
Processes of a shell. A part of a script that has a process of its own begins with a copy of the
shell, of which only what it does to the host is left behind. The commands of a pipeline are run one
after the other, each with all that the one before it has written.
-/

namespace CheckoutLint

namespace Shell

/-- How a command is run. -/
structure Flags where
  /-- Its status is looked at, so that a failure is no reason to end. -/
  tested : Bool := false
  /-- The process ends with it. -/
  last : Bool := false
  deriving DecidableEq, Repr

/-- What the parts of running a script need of each other: programs are run, and commands are. -/
structure Kit where
  launch : Launch
  evaluate : Flags → Command → Sh Nat

/-! ## Scripts -/

/-- A reader that knows the shell's aliases. -/
def Reader.withAliases (reader : Reader) (aliases : List (Text × Text)) : Reader :=
  if reader.aliases == aliases then reader
  else { reader with aliases, bound := (Reader.ofText reader.isExtended reader.rest aliases).bound }

/-- The aliases that the shell puts in the place of words: none in the extended language. -/
def usedAliases (shell : Shell) : List (Text × Text) :=
  if shell.isExtended then [] else shell.aliases

/-- Runs the commands of a script one by one as they are read, given the status of those before. -/
def Kit.commands (kit : Kit) (flags : Flags) (fuel : Nat) (reader : Reader) (status : Nat) :
    Sh Nat :=
  match fuel with
  | 0 => return status
  | fuel + 1 => do
    let shell ← get
    let reader :=
      { reader.withAliases (usedAliases shell) with
        nextDocument := shell.nextDocument, documents := [] }
    match Parse.complete reader with
    | .error fault _ =>
      set { shell with line := fault.line, readLine := fault.line }
      fail fault.message
    | .ok (command, isEnd) reader =>
      set { shell with
        documents := reader.documents ++ shell.documents
        nextDocument := reader.nextDocument
        readLine := reader.line }
      let status ←
        match command with
        | some command => kit.evaluate { flags with last := flags.last && isEnd } command
        | none => pure status
      if isEnd || (← get).skip != .nothing then return status
      kit.commands flags fuel reader status

/-- Runs a script; gives its status. -/
def Kit.script (kit : Kit) (flags : Flags) (script : Text) : Sh Nat := do
  let shell ← get
  let reader := Reader.ofText shell.isExtended script (usedAliases shell)
  let status ← kit.commands flags (script.length + 2) reader 0
  modify fun after => { after with readLine := shell.readLine }
  return status

/-! ## Signals -/

/-- Does what was to be done about a signal or an event. -/
def Kit.answerOne (kit : Kit) (traps : List (Nat × Text)) (signal : Nat) : Sh Unit := do
  let shell ← get
  match traps.lookup signal with
  | some (c :: script) =>
    set { shell with heldStatus := some (shell.heldStatus.getD shell.status) }
    let _ ← kit.script {} (c :: script)
    modify fun after =>
      { after with
        heldStatus := shell.heldStatus
        status :=
          if after.skip = .returning true then after.status
          else shell.heldStatus.getD shell.status }
  | _ => return

/-- Does what was to be done about the signals that have come. -/
def Kit.answer (kit : Kit) : Sh Unit := do
  let shell ← get
  unless shell.arrived.isEmpty || shell.skip != .nothing do
    set { shell with arrived := [] }
    for signal in (shell.arrived.eraseDups.mergeSort fun a b => decide (a ≤ b)) do
      kit.answerOne (← get).traps signal

/-! ## Ending -/

/-- Does what was to be done at the end of the process; what it does may name another status. -/
def Kit.leave (kit : Kit) : Sh Unit := do
  let shell ← get
  match shell.traps.lookup 0 with
  | some (c :: script) =>
    set { shell with
      traps := Signals.setTrap 0 none shell.traps
      skip := .nothing
      heldStatus := some shell.status
      loops := 0 }
    let _ ← kit.script {} (c :: script)
    modify fun after => { after with status := shell.status }
  | _ => return

/-- How a process ends that goes on no more, with what it leaves behind: first it does what was to
be done at its end, unless it is ended from outside. -/
def Kit.end (kit : Kit) : EStateM.Result Stop Shell Unit → Ending × Shell
  | .ok _ shell => atEnd shell
  | .error .failed shell | .error .ended shell => atEnd shell
  | .error (.signalled number) shell => (.signalled number, shell)
  | .error (.replaced status) shell => (.exited status, shell)
where
  /-- Does what was to be done at the end. -/
  atEnd (shell : Shell) : Ending × Shell :=
    match kit.leave shell with
    | .error (.signalled number) shell => (.signalled number, shell)
    | .error (.replaced status) shell => (.exited status, shell)
    | .ok _ shell | .error _ shell => (.exited (shell.status % 256), shell)

/-- Does something in the process of a shell, to its end; all that it has started ends too. -/
def Kit.conclude (kit : Kit) (act : Sh Unit) (shell : Shell) : Ending × Host :=
  let (ending, shell) := kit.end (act shell)
  match Signals.finishAll shell with
  | .ok _ shell | .error _ shell => (ending, shell.host)

/-! ## Processes -/

/-- The shell as it begins in a process of its own. -/
def child (shell : Shell) (process : Nat) (host : Host) : Shell :=
  { shell with
    host, process
    traps := shell.traps.filter fun entry => entry.2.isEmpty
    arrived := [], heldStatus := none, jobs := [], buffer := [], loops := 0, skip := .nothing }

/-- Does something in a process of its own, which begins with other streams. -/
def Kit.fork (kit : Kit) (streams : Streams) (act : Sh Unit) : Sh Ending := do
  let shell ← get
  set { shell with host := .absent }
  let (process, host) := shell.host.newProcess
  let (ending, host) := kit.conclude act { child shell process host with streams }
  set { shell with host }
  return ending

/-- The status of a process that has been waited for. That a signal has ended it is said. -/
def statusOf (ending : Ending) : Sh Nat := do
  match ending with
  | .signalled number => report (Signal.remark number)
  | .exited _ => pure ()
  return ending.status

/-- The output of a command, run in a process of its own. -/
def Kit.outputOf (kit : Kit) (command : Command) : Sh Text := do
  let shell ← get
  let number ← onHost fun host => host.add (.collector [] 0 none)
  let ending ← kit.fork (redirectTo shell.streams 1 number) do
    let _ ← kit.evaluate { last := true } command
  let status ← statusOf ending
  let text := (← get).host.collected number
  modify fun shell =>
    { shell with outputStatus := status, host := shell.host.alter number .nothing }
  return text

/-- The output of a script, run in a process of its own. -/
def Kit.output (kit : Kit) (script : Option Command) : Sh Text := do
  match script with
  | none =>
    modify fun shell => { shell with outputStatus := 0 }
    return []
  | some command => kit.outputOf command

/-- Whether something is to be done about a signal or at the end. -/
def hasTraps (shell : Shell) : Bool := shell.traps.any fun entry => !entry.2.isEmpty

/-- Runs a command in a process of its own, unless the process of the shell ends with it. -/
def Kit.subshell (kit : Kit) (flags : Flags) (line : Nat) (body : Command)
    (redirects : List Redirect) : Sh Nat := do
  modify fun shell => { shell with line }
  let changes ← expandRedirects kit.output redirects
  let act : Sh Unit := do
    applyChanges kit.output changes
    let _ ← kit.evaluate { flags with last := true } body
  let shell ← get
  if flags.last && !hasTraps shell then
    act
    return 0
  statusOf (← kit.fork shell.streams act)

/-- Starts a command for which nothing waits. What it does is put off until something waits for it,
as it would need a while to begin. -/
def Kit.background (kit : Kit) (line : Nat) (body : Command) (redirects : List Redirect) :
    Sh Nat := do
  modify fun shell => { shell with line }
  let changes ← expandRedirects kit.output redirects
  let act : Sh Unit := do
    pointTo 0 (← onHost fun host => host.add .nothing)
    applyChanges kit.output changes
    let _ ← kit.evaluate { last := true } body
  let process ← onHost Host.newProcess
  let shell ← get
  let begun := child { shell with host := .absent } process Host.absent
  let begun := { begun with ignored := 2 :: 3 :: begun.ignored }
  let work (host : Host) : Ending × Host := kit.conclude act { begun with host }
  set { shell with jobs := ⟨process, none, false, work⟩ :: shell.jobs }
  return 0

/-! ## Pipelines -/

/-- How much is taken of what a command of a pipeline writes, at first, and at most. -/
def firstLimit : Nat := 65536

/-- The next higher limit. -/
def nextLimit? (limit : Nat) : Option Nat :=
  if limit < 4194304 then some 4194304 else if limit < 33554432 then some 33554432 else none

/-- What a command of a pipeline leaves for the next one. -/
structure Passed where
  text : Text
  ending : Ending
  /-- Whether there would have been more. -/
  isCut : Bool
  /-- Whether that is so because of the limit. -/
  hitLimit : Bool

/-- Runs a command that writes to the next one in a pipeline. -/
def Kit.stage (kit : Kit) (flags : Flags) (limit : Nat) (streams : Streams) (command : Command) :
    Sh Passed := do
  let number ← onHost fun host =>
    { host with isStarved := false }.add (.collector [] 0 (some limit))
  let ending ← kit.fork (redirectTo streams 1 number) do
    let _ ← kit.evaluate { flags with last := true } command
  let host := (← get).host
  let text := host.collected number
  let hitLimit := limit ≤ text.length
  modify fun shell => { shell with host := shell.host.alter number .nothing }
  return ⟨text, ending, host.isStarved || hitLimit, hitLimit⟩

/-- How a pipeline went: how its commands ended, the last one first, and whether that one asked for
more than there was because of the limit. -/
structure Flow where
  endings : List Ending
  wantsMore : Bool

/-- Runs the commands of a pipeline, each with what the one before it has written. -/
def Kit.stages (kit : Kit) (flags : Flags) (limit : Nat) (hitLimit : Bool) (streams : Streams)
    (before : List Ending) : List Command → Sh Flow
  | [] => return ⟨before, false⟩
  | [command] => do
    modify fun shell => { shell with host := { shell.host with isStarved := false } }
    let ending ← kit.fork streams do
      let _ ← kit.evaluate { flags with last := true } command
    let host := (← get).host
    return ⟨ending :: before, hitLimit && (host.isStarved || host.isSpoiled)⟩
  | command :: commands => do
    let passed ← kit.stage flags limit streams command
    let number ← onHost fun host => host.add (.supply passed.text passed.isCut)
    kit.stages flags limit (hitLimit || passed.hitLimit) (redirectTo streams 0 number)
      (passed.ending :: before) commands

/-- Runs a pipeline with more and more of what its commands write, until that is enough. -/
def Kit.attempt (kit : Kit) (flags : Flags) (fuel limit : Nat) (commands : List Command) :
    Sh (List Ending) := do
  let before ← get
  let flow ← kit.stages flags limit false before.streams [] commands
  match fuel, nextLimit? limit with
  | fuel + 1, some higher =>
    if flow.wantsMore then
      set { before with host := { before.host with budget := higher } }
      kit.attempt flags fuel higher commands
    else return flow.endings
  | _, _ => return flow.endings

/-- Runs a pipeline; gives its status, which is that of its last command, or if the shell is told
so, that of the last one that has failed. -/
def Kit.pipeline (kit : Kit) (flags : Flags) (commands : List Command) : Sh Nat := do
  let before := (← get).host
  modify fun shell => { shell with host := { shell.host with isSpoiled := false } }
  let endings ← kit.attempt flags 4 firstLimit commands
  modify fun shell =>
    { shell with
      host :=
        { shell.host with
          budget := before.budget
          isStarved := before.isStarved || shell.host.isStarved
          isSpoiled := before.isSpoiled || shell.host.isSpoiled } }
  let failed := endings.find? fun ending => ending.status != 0
  let ending := endings.headD (.exited 0)
  statusOf (if isSet (← get) '|' then failed.getD ending else ending)

end Shell

end CheckoutLint
