import CheckoutLint.Host.Basic
import CheckoutLint.Disk.Path

/-!
Running programs by name: a name without a slash is searched in directories.
-/

namespace CheckoutLint.Launch

/-- The variable that names the directories with programs. -/
def searchVariable : Text := "PATH".toList

/-- The directories with programs if none are named. -/
def defaultSearch : Text := "/bin:/usr/bin".toList

/-- The directories in which programs are searched. -/
def directories (environment : List (Text × Text)) : List Text :=
  Text.splitAt ':' ((environment.lookup searchVariable).getD defaultSearch)

/-- Tries paths one after the other. What is not there or must not be executed is passed over, but
what must not be executed is the cause in the end. -/
def tryAll (launch : Launch) (found : SystemError) (call : Call) (host : Host) :
    List Text → Except SystemError Ending × Host
  | [] => (.error found, host)
  | path :: paths =>
    match launch path call host with
    | (.error cause, host) =>
      if cause = .denied then tryAll launch .denied call host paths
      else if cause = .missing ∨ cause = .notDirectory then tryAll launch found call host paths
      else (.error cause, host)
    | done => done

/-- Runs the program of a name. -/
def named (launch : Launch) (call : Call) (host : Host) : Except SystemError Ending × Host :=
  if call.name.isEmpty then (.error .missing, host)
  else if call.name.contains '/' then launch call.name call host
  else
    launch.tryAll .missing call host
      ((directories call.environment).map fun directory => Path.join directory call.name)

/-- Runs programs, and scripts that name no interpreter with the shell. -/
def orScript (launch : Launch) : Launch := fun path call host =>
  match launch path call host with
  | (.error .notExecutable, host) =>
    let shell := "/bin/sh".toList
    launch shell { call with name := shell, arguments := path :: call.arguments } host
  | done => done

end CheckoutLint.Launch
