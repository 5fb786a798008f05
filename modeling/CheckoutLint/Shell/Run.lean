import CheckoutLint.Shell.Question
import CheckoutLint.Shell.Simple

/-!
Running commands. A command may run others, and these further ones; how deep they are nested is
bounded, so that running a script is a recursion on that depth.
-/

namespace CheckoutLint.Shell

/-! ## Loops -/

/-- What is left to be passed over at the end of a turn of a loop, and whether the loop goes on. -/
def endTurn : Skip → Skip × Bool
  | .nothing => (.nothing, true)
  | .leaving loops => (if loops ≤ 1 then .nothing else .leaving (loops - 1), false)
  | .repeating loops =>
    if loops ≤ 1 then (.nothing, true) else (.repeating (loops - 1), false)
  | .returning isGiven => (.returning isGiven, false)

/-- Ends a turn of a loop; gives whether the loop goes on. -/
def finishTurn : Sh Bool :=
  modifyGet fun shell =>
    let (skip, goesOn) := endTurn shell.skip
    (goesOn, { shell with skip })

/-- Does something inside a loop. -/
def insideLoop (act : Sh Nat) : Sh Nat := do
  modify fun shell => { shell with loops := shell.loops + 1 }
  try act
  finally modify fun shell => { shell with loops := shell.loops - 1 }

/-- The most turns that a loop is given. -/
def maxTurns : Nat := 4611686018427387904

/-- Runs the turns of a loop, given the status of the one before. -/
def Kit.turns (kit : Kit) (flags : Flags) (goOn : Bool) (test body : Command) (fuel : Nat)
    (status : Nat) : Sh Nat :=
  match fuel with
  | 0 => return status
  | fuel + 1 => do
    let tested ← kit.evaluate { tested := true } test
    match (← get).skip with
    | .nothing =>
      if (tested == 0) != goOn then return status
      let status ← kit.evaluate flags body
      if ← finishTurn then kit.turns flags goOn test body fuel status else return status
    | skip =>
      let status := if skip = .returning true then tested else status
      if ← finishTurn then kit.turns flags goOn test body fuel status else return status

/-- Runs a command once for each of some values of a variable, given the status of the turn before.
-/
def Kit.forEach (kit : Kit) (flags : Flags) (name : Text) (body : Command) (status : Nat) :
    List Text → Sh Nat
  | [] => return status
  | value :: values => do
    assign name value
    let status ← kit.evaluate flags body
    if ← finishTurn then kit.forEach flags name body status values else return status

/-! ## Compound commands -/

/-- Runs commands one after the other. -/
def Kit.sequence (kit : Kit) (flags : Flags) : List Command → Sh Nat
  | [] => return (← get).status
  | [command] => kit.evaluate flags command
  | command :: commands => do
    let status ← kit.evaluate { tested := flags.tested } command
    if (← get).skip != .nothing then return status
    kit.sequence flags commands

/-- Runs a second command if the status of a first one allows it. -/
def Kit.conditions (kit : Kit) (flags : Flags) (onSuccess : Bool) (first second : Command) :
    Sh Nat := do
  let status ← kit.evaluate { tested := true } first
  if (status == 0) != onSuccess || (← get).skip != .nothing then return status
  kit.evaluate flags second

/-- Runs a command with other streams. -/
def Kit.withRedirects (kit : Kit) (flags : Flags) (line : Nat) (body : Command)
    (redirects : List Redirect) : Sh Nat := do
  modify fun shell => { shell with line }
  let kept := (← get).streams
  let changes ← expandRedirects kit.output redirects
  try
    let status ← redirect kit.output changes
    if status != 0 then return status
    kit.evaluate { tested := flags.tested } body
  finally
    modify fun shell => { shell with streams := kept }

/-- Runs one of two commands. -/
def Kit.branch (kit : Kit) (flags : Flags) (test onTrue : Command) (onFalse : Option Command) :
    Sh Nat := do
  let tested ← kit.evaluate { tested := true } test
  if (← get).skip != .nothing then return tested
  if tested = 0 then kit.evaluate flags onTrue
  else
    match onFalse with
    | some command => kit.evaluate flags command
    | none => return 0

/-- Whether one of some patterns covers a text. -/
def coveredByAny (run : Option Command → Sh Text) (subject : Text) : List Word → Sh Bool
  | [] => return false
  | word :: words => do
    if Pattern.covers (← expandPattern run word) subject then return true
    coveredByAny run subject words

/-- Runs the command behind the first patterns of which one covers a text. -/
def Kit.arms (kit : Kit) (flags : Flags) (subject : Text) :
    List (List Word × Option Command) → Sh Nat
  | [] => return 0
  | (patterns, body) :: arms => do
    if ← coveredByAny kit.output subject patterns then
      match body with
      | some command => kit.evaluate flags command
      | none => return 0
    else kit.arms flags subject arms

/-! ## Commands -/

/-- Runs a command; its status is given, but not noted yet. -/
def Kit.command (kit : Kit) (flags : Flags) : Command → Sh Nat
  | .simple line assignments words redirects =>
    kit.simple flags line assignments words redirects
  | .redirected line body redirects => kit.withRedirects flags line body redirects
  | .subshell line body redirects => kit.subshell flags line body redirects
  | .background line body redirects => kit.background line body redirects
  | .sequence commands => kit.sequence flags commands
  | .both first second => kit.conditions flags true first second
  | .either first second => kit.conditions flags false first second
  | .inverted body => do
    let status ← kit.evaluate { tested := true } body
    return if status = 0 then 1 else 0
  | .pipe stages => kit.pipeline { tested := flags.tested } stages
  | .conditional test onTrue onFalse => kit.branch flags test onTrue onFalse
  | .loop goOn test body =>
    insideLoop (kit.turns { tested := flags.tested } goOn test body maxTurns 0)
  | .each line name words body => do
    modify fun shell => { shell with line }
    let values ← expandWords kit.output words
    insideLoop (kit.forEach { tested := flags.tested } name body 0 values)
  | .choice line subject arms => do
    modify fun shell => { shell with line }
    kit.arms flags (← expandText kit.output .atFront subject) arms
  | .question line query => do
    modify fun shell => { shell with line }
    Question.evaluate kit.output query
  | .define line name body => do
    modify fun shell =>
      { shell with
        functions := (name, ⟨line, body⟩) :: Entries.erase name shell.functions }
    return 0

/-- Whether the failure of a command may be a reason to end by itself; others consist of such. -/
def endsOnFailure : Command → Bool
  | .simple _ _ _ _ | .subshell _ _ _ | .background _ _ _ | .pipe _ | .question _ _ => true
  | _ => false

/-- Runs a command and notes its status. Then signals are answered, and the shell ends if it ends
with the command or is not to go on after a failure. -/
def Kit.step (kit : Kit) (flags : Flags) (command : Command) : Sh Nat := do
  Signals.collect
  if isSet (← get) 'n' then return (← get).status
  let status ← kit.command flags command
  modify fun shell => { shell with status }
  Signals.collect
  kit.answer
  let isFailure := status != 0 && !flags.tested && endsOnFailure command
  if flags.last || isFailure && isSet (← get) 'e' then throw .ended
  return (← get).status

/-- Runs commands that are nested no deeper than the fuel. -/
def evaluate (launch : Launch) : Nat → Flags → Command → Sh Nat
  | 0 => fun _ _ => fail "too deeply nested".toList
  | fuel + 1 => Kit.step ⟨launch, evaluate launch fuel⟩

/-- How deep commands may be nested. -/
def maxNesting : Nat := 100000

/-- What runs scripts, with programs run in a given way. -/
def kit (launch : Launch) : Kit := ⟨launch, evaluate launch maxNesting⟩

end CheckoutLint.Shell
