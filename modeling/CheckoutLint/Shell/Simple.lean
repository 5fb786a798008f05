import CheckoutLint.Host.Search
import CheckoutLint.Shell.Assignment
import CheckoutLint.Shell.Builtin.Control
import CheckoutLint.Shell.Builtin.Directory
import CheckoutLint.Shell.Builtin.Lookup
import CheckoutLint.Shell.Builtin.Options
import CheckoutLint.Shell.Builtin.Print
import CheckoutLint.Shell.Builtin.Read
import CheckoutLint.Shell.Builtin.Test
import CheckoutLint.Shell.Process

/-!
Simple commands. What the first word expands to names the command: one of the shell's own, a
function, or a program. Redirections and assignments in front of it hold for its time alone, unless
the shell depends on the command.
-/

namespace CheckoutLint.Shell

/-! ## Names -/

/-- What the name of a command stands for. -/
inductive Meaning where
  | own
  | function (function : Function)
  | program

/-- What a name stands for; functions may be passed over. -/
def meaning (shell : Shell) (name : Text) (noFunctions : Bool) : Meaning :=
  if name.contains '/' then .program
  else
    match if noFunctions then none else shell.functions.lookup name with
    | some function => .function function
    | none => if Lookup.isOwn name then .own else .program

/-- A simple command of which a part has been expanded. -/
structure Naming where
  /-- The fields in front of the name. -/
  front : List Text := []
  /-- The name and the fields behind it. -/
  fields : List Text
  /-- The words that have not been expanded yet. -/
  words : List Word
  noFunctions : Bool := false
  /-- Whether programs are searched in the usual directories. -/
  usual : Bool := false
  /-- Whether the shell depends on the command that was named first. -/
  isSpecial : Option Bool := none

/-- Expands words up to the first one that gives a field. -/
def expandSome (run : Option Command → Sh Text) : List Word → Sh (List Text × List Word)
  | [] => return ([], [])
  | word :: words => do
    match ← expandWord run word with
    | [] => expandSome run words
    | fields => return (fields, words)

/-- Takes the next field to the front, and expands words if there is none left. -/
def Naming.next (run : Option Command → Sh Text) (naming : Naming) : Sh Naming := do
  let (fields, words) ←
    match naming.fields.tail with
    | [] => expandSome run naming.words
    | rest => pure (rest, naming.words)
  return { naming with front := naming.front ++ naming.fields.take 1, fields, words }

/-- The name of the command whose options say how another one is run. -/
def commandName : Text := "command".toList

/-- Passes the options that say how another command is run; gives whether that one follows. -/
def Naming.inner (run : Option Command → Sh Text) (fuel : Nat) (naming : Naming) :
    Sh (Naming × Bool) :=
  match fuel with
  | 0 => return (naming, false)
  | fuel + 1 => do
    let naming ← naming.next run
    match naming.fields with
    | [] => return (naming, false)
    | ['-', '-'] :: _ =>
      let naming ← naming.next run
      return ({ naming with noFunctions := true }, !naming.fields.isEmpty)
    | ('-' :: c :: letters) :: _ =>
      if (c :: letters).all (· = 'p') then Naming.inner run fuel { naming with usual := true }
      else return (naming, false)
    | _ => return ({ naming with noFunctions := true }, true)

/-- How many options are passed in front of a command. -/
def maxOptions : Nat := 256

/-- Finds the command that is to be run, as one of the shell's own may name another one. -/
def Naming.resolve (run : Option Command → Sh Text) (fuel : Nat) (naming : Naming) : Sh Naming :=
  match fuel, naming.fields with
  | fuel + 1, name :: _ => do
    match meaning (← get) name naming.noFunctions with
    | .own =>
      let dependsOn := specialNames.contains name && !(← get).isExtended
      let special := naming.isSpecial.getD dependsOn
      let naming := { naming with isSpecial := some special }
      if name != commandName then return naming
      let (inner, isFound) ← naming.inner run maxOptions
      if isFound then inner.resolve run fuel
      else
        let all := inner.front ++ inner.fields
        return { naming with fields := all.drop naming.front.length, words := inner.words }
    | _ => return naming
  | _, _ => return naming

/-- Expands the words behind the name of a command. Behind some names a word that has the form of an
assignment stays one field. -/
def expandArguments (run : Option Command → Sh Text) (takesAssignments : Bool) :
    List Word → Sh (List Text)
  | [] => return []
  | word :: words => do
    let first ←
      match if takesAssignments then assignedWord? word else none with
      | some (name, value) => pure [name ++ '=' :: (← expandText run .inAssignment value)]
      | none => expandWord run word
    return first ++ (← expandArguments run takesAssignments words)

/-- The commands behind which words may have the form of assignments. -/
def assigningNames : List Text :=
  ["alias".toList, "export".toList, "local".toList, "readonly".toList]

/-! ## Own commands -/

/-- Runs one of the shell's own commands: its messages name it, and what it has written is sent at
its end. -/
def speaking (name : Text) (act : Sh Nat) : Sh Nat := do
  let speaker := (← get).speaker
  modify fun shell => { shell with speaker := name }
  let outcome ←
    try
      let status ← act
      pure (Except.ok status)
    catch stop => pure (Except.error stop)
  let problem ← flush
  if problem.isSome then complain (name ++ ": I/O error".toList)
  modify fun shell => { shell with speaker }
  match outcome with
  | .ok status => return if problem.isSome then status ||| 1 else status
  | .error stop => throw stop

/-- The path of a script: what has no slash is searched like a program. -/
def scriptPath (shell : Shell) (name : Text) : Option Text :=
  if name.contains '/' then some name
  else
    let paths := (Text.splitAt ':' (shell.valueOf "PATH")).map fun directory =>
      if directory.isEmpty then name else Path.join directory name
    paths.find? fun path => shell.host.fulfils shell.cwd 'f' path

/-- The text of a script; a directory holds none. -/
def readScript (path : Text) : Sh (Except SystemError Text) := do
  let shell ← get
  match ← onHost fun host => host.readPath shell.streams shell.cwd path with
  | .error .isDirectory => return .ok []
  | result => return result

/-- Goes on behind a script that is run in this shell: it may have been left early. -/
def leaveScript : Sh Unit :=
  modify fun shell =>
    match shell.skip with
    | .returning _ => { shell with skip := .nothing }
    | _ => shell

/-- Runs the script at a path in this shell. -/
def Kit.source (kit : Kit) (arguments : List Text) : Sh Nat := do
  let (_, rest) ← takeOptions "" arguments
  match rest with
  | [] => return 0
  | name :: _ =>
    match scriptPath (← get) name with
    | none => fail (name ++ ": not found".toList)
    | some path =>
      match ← readScript path with
      | .error cause => fail (FileMode.refusal .read path cause)
      | .ok script =>
        modify fun shell => { shell with speaker := path }
        let status ← kit.script {} script
        leaveScript
        return status

/-- Runs the program at a path; a file that is no program is run as a script. -/
def Kit.program (kit : Kit) (path name : Text) (arguments : List Text) (process : Nat) :
    Sh (Except SystemError Ending) := do
  let shell ← get
  let ignored := (shell.traps.filter fun entry => entry.2.isEmpty).map (·.1)
  let call : Call :=
    { name, arguments
      environment := environment shell
      cwd := shell.cwd
      streams := shell.streams
      ignored := ignored ++ shell.ignored
      process
      parent := shell.process }
  onHost fun host => kit.launch.orScript path call host

/-- Ends the process as a program did in its place. -/
def endAs {α : Type} (ending : Ending) : Sh α :=
  throw (match ending with
    | .exited status => .replaced status
    | .signalled number => .signalled number)

/-- The program of a name, or why there is none. -/
def programPath (shell : Shell) (usual : Bool) (name : Text) : Except SystemError Text :=
  if usual && !name.contains '/' then
    Lookup.searchIn shell.host shell.cwd name .missing
      ["/usr/sbin".toList, "/usr/bin".toList, "/sbin".toList, "/bin".toList]
  else Lookup.program shell name

/-- Becomes another program. -/
def Kit.become (kit : Kit) (arguments : List Text) : Sh Nat := do
  match arguments with
  | [] => return 0
  | name :: arguments =>
    let shell ← get
    let result ←
      match programPath shell false name with
      | .error cause => pure (.error cause)
      | .ok path => kit.program path name arguments shell.process
    match result with
    | .ok ending => endAs ending
    | .error cause =>
      complain (name ++ ": ".toList ++ Lookup.reasonOf shell name cause)
      modify fun shell => { shell with status := Lookup.statusOf cause }
      throw .ended

/-- Tells what a name means that is not to be run. -/
def describeCommand (arguments : List Text) : Sh Nat := do
  let (options, names) ← takeOptions "pvV" arguments
  let inWords := options.any fun option => option.1 = 'V'
  match names, options.any (fun option => option.1 != 'p') with
  | name :: _, true => Lookup.describe inWords name
  | _, _ => return 0

/-- Runs one of the shell's own commands. -/
def Kit.own (kit : Kit) (flags : Flags) (name : Text) (arguments : List Text) : Sh Nat :=
  match String.ofList name with
  | "." => kit.source arguments
  | "[" | "test" => Test.run name arguments
  | "alias" => Variables.setAliases arguments
  | "break" => Control.leaveLoop .leaving arguments
  | "cd" | "chdir" => Directory.change arguments
  | "command" => describeCommand arguments
  | "continue" => Control.leaveLoop .repeating arguments
  | "echo" => Print.echo arguments
  | "eval" => kit.script { tested := flags.tested } (Text.joinWith [' '] arguments)
  | "exec" => kit.become arguments
  | "exit" => Control.leaveShell arguments
  | "export" => Variables.exportAll arguments
  | "false" => return 1
  | "kill" => Signals.send arguments
  | "local" => Variables.makeLocal arguments
  | "printf" => Print.printf arguments
  | "pwd" => Directory.print arguments
  | "read" => Read.run arguments
  | "readonly" => Variables.protectAll arguments
  | "return" => Control.leaveFunction arguments
  | "set" => Options.run arguments
  | "shift" => Options.shift arguments
  | "trap" => Signals.trap arguments
  | "type" => Lookup.describeAll arguments
  | "unalias" => Variables.removeAliases arguments
  | "unset" => Variables.remove arguments
  | "wait" => Signals.wait arguments
  | _ => return 0

/-! ## Running -/

/-- The most functions that may be running at a time. -/
def maxCalls : Nat := 1000

/-- Calls a function. -/
def Kit.call (kit : Kit) (flags : Flags) (function : Function) (arguments : List Text) :
    Sh Nat := do
  let before ← get
  if maxCalls ≤ before.depth then
    fail ("Maximum function recursion depth (".toList ++ Text.ofNat maxCalls ++
      ") reached".toList)
  set { before with arguments, depth := before.depth + 1, loops := 0 }
  try
    kit.evaluate { tested := flags.tested } function.body
  finally
    modify fun shell =>
      { shell with
        arguments := before.arguments
        depth := before.depth
        loops := before.loops
        skip := if shell.skip matches .returning _ then .nothing else shell.skip }

/-- Runs a program, in the place of the shell if that ends with it. -/
def Kit.external (kit : Kit) (flags : Flags) (usual : Bool) (name : Text)
    (arguments : List Text) : Sh Nat := do
  let shell ← get
  match programPath shell usual name with
  | .error cause =>
    complain (name ++ ": ".toList ++ Lookup.reasonOf shell name cause)
    return 127
  | .ok path =>
    let replaces := flags.last && !hasTraps shell
    let process ← if replaces then pure shell.process else onHost Host.newProcess
    match ← kit.program path name arguments process with
    | .ok ending => if replaces then endAs ending else statusOf ending
    | .error cause =>
      complain (name ++ ": ".toList ++ Lookup.reasonOf shell name cause)
      return Lookup.statusOf cause

/-- Sets a variable; gives how that is shown. -/
def applySetting (run : Option Command → Sh Text) (isExported : Bool) (name : Text)
    (setting : Setting) : Sh Text := do
  match setting with
  | .value appends word =>
    let value ← expandText run .inAssignment word
    Assignment.setValue name appends value
    if isExported then changeVariable name fun old => { old with isExported := true }
    return name ++ '=' :: value
  | .element index appends word =>
    let index ← expandText run .nowhere index
    let value ← expandText run .inAssignment word
    Assignment.setElement name index appends value
    return name ++ '[' :: index ++ "]=".toList ++ value
  | .elements appends words =>
    Assignment.setList name appends (← expandWords run words)
    return name ++ "=()".toList

/-- Sets the variables of assignments, for the time of the command alone if they are local. -/
def assignAll (run : Option Command → Sh Text) (isLocal isExported : Bool) :
    List (Text × Setting) → Sh (List Text)
  | [] => return []
  | (name, setting) :: rest => do
    if isLocal then keep name
    let shown ← applySetting run (isLocal || isExported) name setting
    return shown :: (← assignAll run isLocal isExported rest)

/-- What stands in front of what is shown. -/
def Kit.traceFront (kit : Kit) : Sh Text := do
  let shell ← get
  let front := shell.valueOf "PS4"
  let pieces :=
    match Parse.quotedText (Reader.ofText shell.isExtended front []) with
    | .ok pieces _ => pieces
    | .error _ _ => [.literal front true]
  set { shell with options := shell.options.erase 'x' }
  let shown ← expandText kit.output .nowhere pieces
  modify fun after => { after with options := shell.options }
  return shown

/-- Writes what is going to be run, if that is wanted. -/
def Kit.trace (kit : Kit) (streams : Streams) (fields : List Text) : Sh Unit := do
  if isSet (← get) 'x' then
    let front ← kit.traceFront
    withStreams streams do report (front ++ Text.joinWith [' '] fields ++ ['\n'])

/-- Whether a command has a scope of its own: its assignments hold for its time alone. In the
extended language, that of a function also holds what it declares. -/
def hasScope (extended isSpecial : Bool) (found : Meaning) (name : Text) (hasAssignments : Bool) :
    Bool :=
  if extended then
    (found matches .function _) ||
      hasAssignments && !(assigningNames.contains name)
  else !isSpecial

/-- Runs a simple command. -/
def Kit.simple (kit : Kit) (flags : Flags) (line : Nat) (assignments : List (Text × Setting))
    (words : List Word) (redirects : List Redirect) : Sh Nat := do
  modify fun shell => { shell with line, outputStatus := 0 }
  let run := kit.output
  let streams := (← get).streams
  let (fields, words) ← expandSome run words
  let naming ← Naming.resolve run maxOptions { fields, words }
  let name := naming.fields.headD []
  let noName := naming.fields.isEmpty
  let found := meaning (← get) name naming.noFunctions
  let isOwn := found matches .own
  let arguments ← do
    let more ← expandArguments run (isOwn && assigningNames.contains name) naming.words
    pure (naming.fields.tail ++ more)
  let isSpecial := isOwn && naming.isSpecial.getD false
  let extended := (← get).isExtended
  let isLocal := !noName && hasScope extended isSpecial found name !assignments.isEmpty
  let isExec := isOwn && name = "exec".toList
  if isLocal then openScope
  try
    let status ← redirect run (← expandRedirects run redirects)
    if status != 0 then
      if isSpecial then throw .failed
      return status
    let assigned ← assignAll run isLocal (isExec && !arguments.isEmpty) assignments
    kit.trace streams (assigned ++ naming.front ++ naming.fields.take 1 ++ arguments)
    if noName then return (← get).outputStatus
    match found with
    | .own =>
      try
        speaking name (kit.own flags name arguments)
      catch stop =>
        if stop = .failed && !isSpecial then return (← get).status
        throw stop
    | .function function => kit.call flags function arguments
    | .program => kit.external flags naming.usual name arguments
  finally
    if isLocal then closeScope
    unless isExec do modify fun shell => { shell with streams }

end CheckoutLint.Shell
