import CheckoutLint.Host.Condition
import CheckoutLint.Shell.Arithmetic

/-!
The shell's own command for conditions: on texts, on numbers and on files, joined by operators and
parentheses. Whether a word is an operator depends on the words behind it.
-/

namespace CheckoutLint.Shell.Test

/-- What a word is in a condition. -/
inductive Role where
  | operand
  /-- A condition on the next word. -/
  | unary (letter : Char)
  /-- A condition on the words around it. -/
  | binary
  | inversion
  | conjunction
  | disjunction
  | opening
  | closing
  | nothing
  deriving DecidableEq, Repr

/-- The operators between two words. -/
def binaryOperators : List Text :=
  ["=".toList, "!=".toList, "<".toList, ">".toList, "-eq".toList, "-ne".toList, "-ge".toList,
    "-gt".toList, "-le".toList, "-lt".toList, "-nt".toList, "-ot".toList, "-ef".toList]

/-- The letters of conditions on one word. -/
def unaryLetters : List Char := "rwxefdcbpugksznhOGLSt".toList

/-- What a word is by itself. -/
def roleOf (word : Text) : Role :=
  match word with
  | ['!'] => .inversion
  | ['('] => .opening
  | [')'] => .closing
  | ['-', 'a'] => .conjunction
  | ['-', 'o'] => .disjunction
  | ['-', letter] => if unaryLetters.contains letter then .unary letter else .operand
  | _ => if binaryOperators.contains word then .binary else .operand

/-- What the first of some words is, given those behind it. -/
def role : List Text → Role
  | [] => .nothing
  | [word] =>
    match roleOf word with
    | .unary _ | .opening => .operand
    | found => found
  | [word, _] => roleOf word
  | word :: next :: _ :: _ =>
    match roleOf word with
    | .unary letter => if roleOf next = .binary then .operand else .unary letter
    | found => found

/-- Compares two texts. -/
def compareTexts (operator first second : Text) : Option Bool :=
  match operator with
  | ['='] => some (first == second)
  | ['!', '='] => some (first != second)
  | ['<'] => some (decide (first < second))
  | ['>'] => some (decide (second < first))
  | _ => none

/-- Compares two numbers. -/
def compareNumbers (operator : Text) (first second : Int) : Option Bool :=
  match String.ofList operator with
  | "-eq" => some (first == second)
  | "-ne" => some (first != second)
  | "-ge" => some (first ≥ second)
  | "-gt" => some (first > second)
  | "-le" => some (first ≤ second)
  | "-lt" => some (first < second)
  | _ => none

/-- What is left of the words of a condition. -/
abbrev Reading := StateT (List Text) Sh

/-- Stops with what is wrong at a word. -/
def wrong {α : Type} (word : Text) (message : String) : Reading α :=
  fail (if word.isEmpty then message.toList else word ++ ": ".toList ++ message.toList)

/-- A condition on the words around an operator, of which the first word has been read. -/
def between (first operator : Text) : Reading Bool := do
  match ← get with
  | [] => wrong operator "argument expected"
  | second :: rest =>
    set rest
    match compareTexts operator first second with
    | some holds => return holds
    | none =>
      if operator = "-ef".toList then
        let shell ← getThe Shell
        return shell.host.sameFile shell.cwd first second
      else if operator = "-nt".toList || operator = "-ot".toList then return false
      else
        let a ← wholeNumber first
        let b ← wholeNumber second
        return (compareNumbers operator a b).getD false

/-- A condition on one word. -/
def onWord (letter : Char) (word : Text) : Reading Bool := do
  let shell ← getThe Shell
  match letter with
  | 'z' => return word.isEmpty
  | 'n' => return !word.isEmpty
  | 't' =>
    let _ ← wholeNumber word
    return false
  | _ => return shell.host.fulfils shell.cwd letter word

/-- A condition without operators that join several. -/
def primary (whole : Reading Bool) : Reading Bool := do
  let words ← get
  match role words, words with
  | .nothing, _ | _, [] => return false
  | .opening, _ :: rest =>
    set rest
    if role rest = .closing then
      set rest.tail
      return false
    let holds ← whole
    match ← get with
    | [')'] :: rest =>
      set rest
      return holds
    | _ => wrong [] "closing paren expected"
  | .unary letter, word :: rest =>
    match rest with
    | [] => wrong word "argument expected"
    | operand :: rest =>
      set rest
      onWord letter operand
  | _, word :: rest =>
    if role rest = .binary then
      set rest.tail
      between word (rest.headD [])
    else
      set rest
      return !word.isEmpty

/-- A condition, perhaps inverted. -/
def inverted (whole : Reading Bool) (fuel : Nat) : Reading Bool :=
  match fuel with
  | 0 => return false
  | fuel + 1 => do
    let words ← get
    if role words = .inversion then
      unless words.tail.isEmpty do set words.tail
      if words.tail.isEmpty then
        set words.tail
        return true
      return !(← inverted whole fuel)
    primary whole

/-- Conditions joined so that all must hold. -/
def all (whole : Reading Bool) (fuel : Nat) (soFar : Bool) : Reading Bool :=
  match fuel with
  | 0 => return soFar
  | fuel + 1 => do
    let holds ← inverted whole fuel
    let words ← get
    if role words = .conjunction then
      set words.tail
      all whole fuel (soFar && holds)
    else return soFar && holds

/-- Conditions joined so that one must hold. -/
def any (whole : Reading Bool) (fuel : Nat) (soFar : Bool) : Reading Bool :=
  match fuel with
  | 0 => return soFar
  | fuel + 1 => do
    let holds ← all whole fuel true
    let words ← get
    if role words = .disjunction then
      set words.tail
      any whole fuel (soFar || holds)
    else return soFar || holds

/-- A whole condition. Parentheses are nested no deeper than the fuel. -/
def condition (fuel : Nat) : Reading Bool :=
  match fuel with
  | 0 => return false
  | fuel + 1 => do any (condition fuel) ((← get).length + 2) false

/-- Whether the condition that words make holds. -/
def evaluate (words : List Text) : Sh Bool := do
  let read (words : List Text) : Sh Bool := do
    let (holds, rest) ← (condition (words.length + 1)).run words
    if rest.isEmpty then return holds
    let last := (words.take (words.length - rest.length)).getLast?.getD []
    (wrong last "unexpected operator").run' []
  match words with
  | [] => return false
  | [first, operator, second] =>
    if roleOf operator = .binary then (between first operator).run' [second]
    else if first = ['('] && second = [')'] then read [operator]
    else if first = ['!'] then return !(← read [operator, second])
    else read words
  | [['!'], a, b, c] =>
    if roleOf b = .binary then return !(← (between a b).run' [c])
    else if a = ['('] && c = [')'] then return !(← read [b])
    else return !(← read [a, b, c])
  | [['('], a, b, [')']] => read [a, b]
  | _ => read words

/-! ## The extended language -/

/-- Whether the condition of an operator between two texts holds. -/
def holdsBetween (first operator second : Text) : Sh Bool := do
  let shell ← get
  match compareTexts operator first second with
  | some holds => return holds
  | none =>
    if operator = "-ef".toList then return shell.host.sameFile shell.cwd first second
    let isThere (path : Text) := shell.host.fulfils shell.cwd 'e' path
    if operator = "-nt".toList then return isThere first && !isThere second
    if operator = "-ot".toList then return !isThere first && isThere second
    let a ← Arithmetic.value first
    let b ← Arithmetic.value second
    return (compareNumbers operator a b).getD false

/-- Whether the condition of an operator on a text holds. -/
def holdsOn (operator word : Text) : Sh Bool := do
  let shell ← get
  match operator.getLast? with
  | some 'z' => return word.isEmpty
  | some 'n' => return !word.isEmpty
  | some 'v' => return (shell.value? word).isSome
  | some letter => return shell.host.fulfils shell.cwd letter word
  | none => return false

/-- Tells by a status whether the condition of the arguments holds. -/
def run (name : Text) (arguments : List Text) : Sh Nat := do
  let words ←
    if name = ['['] then
      if arguments.getLast? = some [']'] then pure arguments.dropLast
      else fail "missing ]".toList
    else pure arguments
  return if ← evaluate words then 0 else 1

end CheckoutLint.Shell.Test
