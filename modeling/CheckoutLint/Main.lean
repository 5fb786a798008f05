import CheckoutLint.Archive
import CheckoutLint.CommandLine.Run
import CheckoutLint.CommandLine.Usage
import CheckoutLint.Program

/-!
The program. It reads the checkout as a tape archive from standard input, unpacks it in a working
directory of its own, and checks it there; tools are scripts that the archive brings along. All that
is done here is to read, to write and to take the time.
-/

namespace CheckoutLint

/-- Reads a stream to its end. -/
partial def readAll (stream : IO.FS.Stream) (front : ByteArray) : IO ByteArray := do
  let part ← stream.read 65536
  if part.isEmpty then return front else readAll stream (front ++ part)

/-- Writes a text to a stream. -/
def write (stream : IO.FS.Stream) (text : Text) : IO Unit := do
  stream.putStr (String.ofList text)
  stream.flush

/-- The variables of the environment that a run looks at. -/
def readEnvironment : IO Environment := do
  let names := [Settings.programVariable .spelling, Settings.programVariable .links,
    Settings.timingVariable, Launch.searchVariable]
  let values ← names.mapM fun name => do
    let value ← IO.getEnv (String.ofList name)
    return value.map fun value => (name, value.toList)
  return values.filterMap id

/-- The working directory of a run. -/
def workingDirectory : Place := [Text.utf8 "checkout".toList]

/-- Runs the checkers of a plan one by one, writing the report on the way; gives the exit code. -/
def report (color : Bool) (plan : CommandLine.Plan) (launch : Launcher Workspace) (disk : Disk) :
    IO UInt32 := do
  let out ← IO.getStdout
  let err ← IO.getStderr
  let opening := CommandLine.opening color plan
  write out opening.out
  write err opening.err
  let mut workspace : Workspace := { disk }
  let mut outcomes : List Outcome := []
  for inspection in plan.inspections do
    let start ← IO.monoMsNow
    let ((outcome, _), after) := inspection.run plan.checkout.source launch workspace
    let code := Outcome.exitCode [outcome]
    let stop ← if code ≤ 2 then IO.monoMsNow else pure start
    let time := Text.ofNat (stop - start) ++ "ms".toList
    let entry := CommandLine.entry color plan (List.replicate (6 - time.length) ' ' ++ time) outcome
    write err entry.err
    write out entry.out
    workspace := after
    outcomes := outcomes ++ [outcome]
  write out (CommandLine.closing color plan outcomes)
  return (Outcome.exitCode outcomes).toUInt32

end CheckoutLint

open CheckoutLint in
def main (arguments : List String) : IO UInt32 := do
  let out ← IO.getStdout
  let err ← IO.getStderr
  match Options.parse {} (arguments.map String.toList) with
  | .error .help => do
    write out CommandLine.help
    return 0
  | .error .version => do
    write out CommandLine.versionLine
    return 0
  | .error (.misuse misuse) => do
    write err (CommandLine.usage misuse)
    return 2
  | .ok options => do
    let environment ← readEnvironment
    let bytes ← readAll (← IO.getStdin) ByteArray.empty
    let empty :=
      (Program.systemDisk.makeDirectory [] (Text.utf8 "/checkout".toList)).toOption.getD
        Program.systemDisk
    let disk := Archive.unpack empty workingDirectory bytes.toList
    let machine : CommandLine.Machine :=
      ⟨disk, .full, environment, workingDirectory, "000000".toList⟩
    match CommandLine.plan machine options with
    | .error problem => do
      write err ("Error: ".toList ++ problem.message ++ ['\n'])
      return 2
    | .ok plan =>
      let colorless ← IO.getEnv "NO_COLOR"
      let color := (← out.isTty) && colorless.isNone
      let launch :=
        Program.launcher environment workingDirectory plan.checkout.scratchDirectory
      report color plan launch disk
