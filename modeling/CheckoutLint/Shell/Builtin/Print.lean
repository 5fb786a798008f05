import CheckoutLint.Conversion.Format
import CheckoutLint.Shell.Builtin.Arguments

/-!
The shell's own commands for output: one writes its arguments, the other a format with arguments in
it.

Main statement:

* `Print.echoed_plain`: arguments without backslashes are written with blanks between them.
-/

namespace CheckoutLint.Shell.Print

open Conversion

/-! ## Arguments as they are -/

/-- Arguments with their escapes replaced, joined by blanks; the output may end within one. -/
def echoed : List Text → Escape.Read
  | [] => ⟨[], false⟩
  | [argument] => Escape.replace Escape.shellText argument
  | argument :: more =>
    let first := Escape.replace Escape.shellText argument
    if first.isLast then first
    else
      let rest := echoed more
      ⟨first.text ++ ' ' :: rest.text, rest.isLast⟩

theorem replaceFrom_plain (reader : Escape.Reader) (done : Text) {text : Text} (h : '\\' ∉ text) :
    Escape.replaceFrom reader (text.length + 1) done text = ⟨done.reverse ++ text, false⟩ := by
  induction text generalizing done with
  | nil => simp [Escape.replaceFrom]
  | cons c text ih =>
    simp only [List.mem_cons, not_or] at h
    rw [List.length_cons, Escape.replaceFrom, if_neg (Ne.symm h.1), ih _ h.2]
    simp

/-- Arguments without backslashes are written with blanks between them. -/
theorem echoed_plain {arguments : List Text} (h : ∀ argument ∈ arguments, '\\' ∉ argument) :
    echoed arguments = ⟨Text.joinWith [' '] arguments, false⟩ := by
  induction arguments with
  | nil => rfl
  | cons argument more ih =>
    have plain : Escape.replace Escape.shellText argument = ⟨argument, false⟩ :=
      replaceFrom_plain _ [] (h argument List.mem_cons_self)
    cases more with
    | nil => rw [echoed, plain, Text.joinWith]
    | cons next rest =>
      rw [echoed, plain, ih fun text mem => h text (List.mem_cons_of_mem _ mem)]
      · simp [Text.joinWith]
      · simp

/-- Writes arguments and the end of a line, which an option leaves out. -/
def echo (arguments : List Text) : Sh Nat := do
  if (← get).isExtended then say (Conversion.echoed Escape.longEchoed arguments)
  else
    let (noEnd, arguments) :=
      match arguments with
      | ['-', 'n'] :: rest => (true, rest)
      | rest => (false, rest)
    let read := echoed arguments
    say (if noEnd || read.isLast then read.text else read.text ++ ['\n'])
  return 0

/-! ## Formats -/

/-- How a problem with a number reads. -/
def shown : Format.Problem → Text
  | .noNumber => ": expected numeric value".toList
  | .notAll => ": not completely converted".toList
  | .outOfRange => ": Numerical result out of range".toList

/-- Writes a format with arguments in it, given both. -/
def formatted (format : Text) (arguments : List Text) : Sh Nat := do
  let mut status := 0
  for piece in (Format.pieces ⟨Escape.shellFormat, Escape.shellText⟩ format arguments).1 do
    match piece with
    | .text text => say text
    | .problem argument problem =>
      complain (argument ++ shown problem)
      status := 1
    | .refused directive => fail ('%' :: directive ++ ": invalid directive".toList)
  return status

/-- Writes a format with arguments in it. -/
def printf (arguments : List Text) : Sh Nat := do
  let arguments ←
    match arguments with
    | ['-', '-'] :: rest => pure rest
    | ('-' :: c :: _) :: _ => failOption c false
    | rest => pure rest
  match arguments with
  | [] => fail "usage: printf format [arg ...]".toList
  | format :: arguments => formatted format arguments

end CheckoutLint.Shell.Print
