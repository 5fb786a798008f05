import CheckoutLint.Utility.Quantity

/-!
Utilities that answer by their status alone: yes, no, or whether a condition holds. How a condition
is read depends on how many words it has, so that every word can be asked about.
-/

namespace CheckoutLint.Utility.Question

/-- A number. -/
def number (word : Text) : Work Int := do
  match Quantity.readSigned? word with
  | some n => return n
  | none => fail 2 ("invalid integer ".toList ++ Shown.exactly word)

/-- A condition on the words around an operator, unless it is none. -/
def between? (first operator second : Text) : Option (Work Bool) :=
  let numbers (holds : Int → Int → Bool) : Option (Work Bool) :=
    some do return holds (← number first) (← number second)
  match String.ofList operator with
  | "=" | "==" => some (return first == second)
  | "!=" => some (return first != second)
  | "-eq" => numbers (· == ·)
  | "-ne" => numbers (· != ·)
  | "-ge" => numbers (fun a b => decide (b ≤ a))
  | "-gt" => numbers (fun a b => decide (b < a))
  | "-le" => numbers (fun a b => decide (a ≤ b))
  | "-lt" => numbers (fun a b => decide (a < b))
  | _ => none

/-- A condition on the word behind its name. -/
def unary (name word : Text) : Work Bool := do
  match name with
  | ['!'] | ['-', 'z'] => return word.isEmpty
  | ['-', 'n'] => return !word.isEmpty
  | ['-', letter] =>
    let task ← get
    return task.host.fulfils task.call.cwd letter word
  | _ => fail 2 ("missing argument after ".toList ++ Shown.exactly word)

/-- Whether a condition of some words holds. Many words are parted at operators that join
conditions. Takes at most `fuel` steps. -/
def holds (fuel : Nat) (words : List Text) : Work Bool :=
  match fuel, words with
  | 0, _ | _, [] => return false
  | _, [word] => return !word.isEmpty
  | _, [name, word] => unary name word
  | fuel + 1, words => do
    let joined (operator : Text) : Option (List Text × List Text) :=
      match words.idxOf? operator with
      | some (n + 1) => some (words.take (n + 1), words.drop (n + 2))
      | _ => none
    let condition :=
      match words with
      | [first, operator, second] => between? first operator second
      | _ => none
    match condition, joined "-o".toList, joined "-a".toList, words with
    | some condition, _, _, _ => condition
    | none, some (front, back), _, _ =>
      let first ← holds fuel front
      let second ← holds fuel back
      return first || second
    | none, none, some (front, back), _ =>
      let first ← holds fuel front
      let second ← holds fuel back
      return first && second
    | none, none, none, ['!'] :: rest => return !(← holds fuel rest)
    | _, _, _, _ =>
      fail 2 (Shown.exactly ((words[1]?).getD []) ++ ": binary operator expected".toList)

/-- Answers whether the condition of the arguments holds. -/
def ask (needsBracket : Bool) : Work Unit := do
  let arguments := (← get).call.arguments
  if needsBracket && arguments.getLast? != some [']'] then fail 2 "missing ']'".toList
  let words := if needsBracket then arguments.dropLast else arguments
  exit (if ← holds (words.length + 1) words then 0 else 1)

/-- Answers yes. -/
def yes : Work Unit := return

/-- Answers no. -/
def no : Work Unit := exit 1

end CheckoutLint.Utility.Question
