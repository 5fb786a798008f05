import CheckoutLint.Disk.Edit
import CheckoutLint.Text.Octets

/-!
The host on which programs run: the disk, and the files that are open. Open files are numbered and
stay known; a process has streams, small numbers that stand for open files. All texts here are
octet texts.
-/

namespace CheckoutLint

/-- How a process ended: with a status, or by a signal. -/
inductive Ending where
  | exited (status : Nat)
  | signalled (number : Nat)
  deriving DecidableEq, Repr

/-- What a shell says that the status of a process was. -/
def Ending.status : Ending → Nat
  | .exited status => status
  | .signalled number => 128 + number

/-- What stands behind an open file. -/
inductive OpenFile where
  /-- A file on disk, at an offset. What is left of it may be remembered with the time when it was
  read. -/
  | regular (place : Place) (canRead canWrite atEnd : Bool) (offset : Nat)
      (known : Option (Nat × Text))
  | directory (place : Place)
  /-- Collects what is written, newest first, up to a limit. -/
  | collector (parts : List Text) (size : Nat) (limit : Option Nat)
  /-- A text that can be read once. It may have been cut, as its writer would not have ended. -/
  | supply (rest : Text) (isCut : Bool)
  /-- Takes everything and gives nothing. -/
  | nothing
  /-- Takes everything and gives zeros. -/
  | zeros
  /-- Takes nothing and gives zeros. -/
  | full

namespace OpenFile

/-- All that a collector holds. -/
def collected : OpenFile → Text
  | .collector parts _ _ => parts.reverse.flatten
  | _ => []

/-- A collector once something has been written to it. -/
def collect (parts : List Text) (size : Nat) (limit : Option Nat) (text : Text) : OpenFile :=
  .collector (text :: parts) (size + text.length) limit

end OpenFile

/-- A machine with its disk and the files that are open on it. -/
structure Host where
  disk : Disk
  opened : Array OpenFile := #[]
  /-- How often files have been written. -/
  time : Nat := 0
  /-- How much is taken of what does not end by itself. -/
  budget : Nat := 1048576
  /-- Whether more was asked for than had been taken. -/
  isStarved : Bool := false
  /-- Whether something was made of that which more would have changed from its start on. -/
  isSpoiled : Bool := false
  /-- Signals that have been sent to processes that are waiting. -/
  sent : List (Nat × Nat) := []
  /-- The number of the last process. -/
  lastProcess : Nat := 4241

/-- The streams of a process, each with the number of an open file. -/
abbrev Streams := List (Nat × Nat)

/-- A program to run: the name by which it is called, its arguments, its variables, where it works,
its streams, the signals that it does not mind, and the number of the process. -/
structure Call where
  name : Text
  arguments : List Text
  environment : List (Text × Text)
  cwd : Place
  streams : Streams
  ignored : List Nat := []
  process : Nat := 0
  parent : Nat := 1

/-- What runs the program that lies at a path; gives how it ended, or why it cannot be run. -/
abbrev Launch := Text → Call → Host → Except SystemError Ending × Host

namespace SystemError

/-- A stream that is not open. -/
def badStream : SystemError := .numbered 9

/-- Something is there already. -/
def present : SystemError := .numbered 17

/-- A request that makes no sense. -/
def invalid : SystemError := .numbered 22

/-- No room is left. -/
def noSpace : SystemError := .numbered 28

/-- Nobody reads what is written. -/
def brokenPipe : SystemError := .numbered 32

/-- A directory is not empty. -/
def notEmpty : SystemError := .numbered 39

/-- A cause in the words of the system alone, without its number. -/
def reason : SystemError → Text
  | .numbered code =>
    match systemMessage? code with
    | some known => known.toList
    | none => "Unknown error ".toList ++ Text.ofInt code
  | .described text => text
  | .atPath cause _ => cause.reason

end SystemError

namespace Host

/-- No machine: what stands for one that is elsewhere. -/
def absent : Host := { disk := ⟨.pipe []⟩ }

/-- An open file. -/
def open? (host : Host) (number : Nat) : Option OpenFile := host.opened[number]?

/-- Opens a file; gives its number. -/
def add (host : Host) (file : OpenFile) : Nat × Host :=
  (host.opened.size, { host with opened := host.opened.push file })

/-- Changes an open file. -/
def alter (host : Host) (number : Nat) (file : OpenFile) : Host :=
  { host with opened := host.opened.setIfInBounds number file }

/-- All that has been written to a collector. -/
def collected (host : Host) (number : Nat) : Text :=
  ((host.open? number).map OpenFile.collected).getD []

/-- The number of a new process. -/
def newProcess (host : Host) : Nat × Host :=
  (host.lastProcess + 1, { host with lastProcess := host.lastProcess + 1 })

end Host

end CheckoutLint
