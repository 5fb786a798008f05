import CheckoutLint.Shell.Number

/-!
Signals by name and by number, and what is said of a process that one of them has ended.
-/

namespace CheckoutLint.Shell.Signal

open Conversion

/-- The names of the signals in order; the first stands for the end of a script. -/
def plainNames : List String :=
  ["EXIT", "HUP", "INT", "QUIT", "ILL", "TRAP", "ABRT", "BUS", "FPE", "KILL", "USR1", "SEGV",
    "USR2", "PIPE", "ALRM", "TERM", "16", "CHLD", "CONT", "STOP", "TSTP", "TTIN", "TTOU", "URG",
    "XCPU", "XFSZ", "VTALRM", "PROF", "WINCH", "IO", "PWR", "SYS", "32", "33"]

/-- The names of all signals in order. -/
def names : List Text :=
  plainNames.map String.toList ++ ["RTMIN".toList] ++
    (List.range 15).map (fun n => "RTMIN+".toList ++ Text.ofNat (n + 1)) ++
    (List.range 14).map (fun n => "RTMAX-".toList ++ Text.ofNat (14 - n)) ++ ["RTMAX".toList]

/-- The name of a signal. -/
def name (number : Nat) : Text := (names[number]?).getD []

/-- The number that a text of digits writes, if a signal has it. -/
def ofNumber? (text : Text) : Option Nat :=
  if !text.isEmpty && text.all Char.isDigit && ofDigits 10 text < names.length then
    some (ofDigits 10 text)
  else none

/-- The signal from a least one on that a text names or numbers. Case does not count. -/
def ofName? (least : Nat) (text : Text) : Option Nat :=
  match ofNumber? text with
  | some number => some number
  | none =>
    let upper := text.map Char.toUpper
    match (names.drop least).idxOf? upper with
    | some n => some (n + least)
    | none => none

/-- The signal that is sent if none is named. -/
def usual : Nat := 15

/-- The signal of a process that writes what nobody reads. -/
def pipe : Nat := 13

/-- Whether a signal does nothing to a process that does nothing about it. -/
def isHarmless (number : Nat) : Bool := [0, 17, 18, 23, 28].contains number

/-- Whether a process can do nothing about a signal. -/
def isFinal (number : Nat) : Bool := number = 9 || number = 19

/-- What is said of a process that a signal has ended. -/
def report (number : Nat) : Text :=
  match number with
  | 1 => "Hangup".toList
  | 2 => "Interrupt".toList
  | 3 => "Quit".toList
  | 4 => "Illegal instruction".toList
  | 5 => "Trace/breakpoint trap".toList
  | 6 => "Aborted".toList
  | 7 => "Bus error".toList
  | 8 => "Floating point exception".toList
  | 9 => "Killed".toList
  | 10 => "User defined signal 1".toList
  | 11 => "Segmentation fault".toList
  | 12 => "User defined signal 2".toList
  | 13 => "Broken pipe".toList
  | 14 => "Alarm clock".toList
  | 15 => "Terminated".toList
  | 16 => "Stack fault".toList
  | 24 => "CPU time limit exceeded".toList
  | 25 => "File size limit exceeded".toList
  | 26 => "Virtual timer expired".toList
  | 27 => "Profiling timer expired".toList
  | 29 => "I/O possible".toList
  | 30 => "Power failure".toList
  | 31 => "Bad system call".toList
  | _ =>
    if 34 ≤ number then "Real-time signal ".toList ++ Text.ofNat (number - 34)
    else "Unknown signal ".toList ++ Text.ofNat number

/-- What a shell says of a process that a signal has ended; it passes over two of them. -/
def remark (number : Nat) : Text :=
  if number = 2 || number = pipe then [] else report number ++ ['\n']

end CheckoutLint.Shell.Signal
