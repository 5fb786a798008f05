import CheckoutLint.Host.Search
import CheckoutLint.Utility.Options

/-!
Utilities that run a program with variables of its own, and that wait.
-/

namespace CheckoutLint.Utility.Setting

/-- Runs a program with variables set and unset, or writes the variables. -/
def env (launch : Launch) : Work Unit := do
  inTrouble 125
  let manner : Options.Manner := { flags := "i", valued := "u", status := 125, stops := true }
  let taken ← manner.ofCall
  let mut call := (← get).call
  if taken.has 'i' then call := { call with environment := [] }
  for (letter, name) in taken.options do
    if letter = 'u' then
      call := { call with environment := Entries.erase name call.environment }
  let settings := taken.operands.takeWhile fun operand => operand.contains '='
  for setting in settings do
    let name := setting.takeWhile (· ≠ '=')
    let value := setting.drop (name.length + 1)
    call := { call with environment := Entries.set name value call.environment }
  match taken.operands.drop settings.length with
  | [] => for (name, value) in call.environment do putLine (name ++ '=' :: value)
  | name :: arguments =>
    flush
    match ← onHost fun host => launch.orScript.named { call with name, arguments } host with
    | .ok ending => throw ending
    | .error cause =>
      warn (Shown.exactly name ++ ": ".toList ++ cause.reason)
      exit (if cause = .missing then 127 else 126)

/-- Waits; nothing else depends on how long that takes. -/
def sleep : Work Unit := do
  let arguments := (← get).call.arguments
  if arguments.isEmpty then misuse 1 "missing operand".toList
  let isTime (text : Text) : Bool := !text.isEmpty && text.all fun c => c.isDigit || c = '.'
  for text in arguments do
    unless isTime text do misuse 1 ("invalid time interval ".toList ++ Shown.exactly text)

end CheckoutLint.Utility.Setting
