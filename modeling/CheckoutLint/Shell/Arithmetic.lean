import CheckoutLint.Shell.Number

/-!
Arithmetic of the shell: whole numbers of 64 bits, variables, the usual operators in their usual
order, and assignments. An expression is computed while it is read, so that what is wrong shows in
the order of the text; a part that does not count is read without effect.
-/

namespace CheckoutLint.Shell.Arithmetic

open Conversion

/-- A token of an expression. -/
inductive Symbol where
  | number (value : Int)
  | name (text : Text)
  | operator (text : Text)
  deriving DecidableEq, Repr

/-- The operators, longer ones first. -/
def operators : List Text :=
  ["<<=".toList, ">>=".toList, "&&".toList, "||".toList, "==".toList, "!=".toList, "<=".toList,
    ">=".toList, "<<".toList, ">>".toList, "+=".toList, "-=".toList, "*=".toList, "/=".toList,
    "%=".toList, "&=".toList, "|=".toList, "^=".toList, "<".toList, ">".toList, "+".toList,
    "-".toList, "*".toList, "/".toList, "%".toList, "&".toList, "|".toList, "^".toList, "!".toList,
    "~".toList, "(".toList, ")".toList, "?".toList, ":".toList, "=".toList]

/-- The token at the front of an expression, and what follows it; a character that begins none is an
operator that nothing knows. -/
def symbol (s : Text) : Symbol × Text :=
  let c := s.headD ' '
  if c.isDigit then
    match numeral? none s with
    | some ⟨value, rest⟩ => (.number (clamp value), rest)
    | none => (.operator [c], [])
  else if startsName c then
    let name := s.takeWhile isNameChar
    (.name name, s.drop name.length)
  else
    match operators.find? fun operator => operator.isPrefixOf s with
    | some operator => (.operator operator, s.drop operator.length)
    | none => (.operator ['.'], [])

/-- The tokens of an expression. Takes at most `fuel` steps. -/
def symbols (fuel : Nat) (s : Text) : List Symbol :=
  match fuel, s with
  | 0, _ | _, [] => []
  | fuel + 1, c :: s =>
    if c = ' ' ∨ c = '\t' ∨ c = '\n' then symbols fuel s
    else
      let (found, rest) := symbol (c :: s)
      found :: symbols fuel rest

/-- How tightly an operator between two operands binds; zero if there is no such operator. -/
def precedence (operator : Text) : Nat :=
  if operator = ['|'] then 1
  else if operator = ['^'] then 2
  else if operator = ['&'] then 3
  else if operator = "==".toList ∨ operator = "!=".toList then 4
  else if ["<".toList, ">".toList, "<=".toList, ">=".toList].contains operator then 5
  else if operator = "<<".toList ∨ operator = ">>".toList then 6
  else if operator = ['+'] ∨ operator = ['-'] then 7
  else if operator = ['*'] ∨ operator = ['/'] ∨ operator = ['%'] then 8
  else 0

/-- One for what holds, zero for what does not. -/
def truth (holds : Bool) : Int := if holds then 1 else 0

/-- The bits of a number. -/
def bits (n : Int) : UInt64 := UInt64.ofInt n

/-- The number of some bits. -/
def ofBits (b : UInt64) : Int := wrap b.toNat

/-- The value of an operator for two operands. Division goes toward zero, and is none by zero. -/
def compute? (operator : Text) (a b : Int) : Option Int :=
  if operator = ['|'] then some (ofBits (bits a ||| bits b))
  else if operator = ['^'] then some (ofBits (bits a ^^^ bits b))
  else if operator = ['&'] then some (ofBits (bits a &&& bits b))
  else if operator = "==".toList then some (truth (a == b))
  else if operator = "!=".toList then some (truth (a != b))
  else if operator = "<".toList then some (truth (a < b))
  else if operator = ">".toList then some (truth (a > b))
  else if operator = "<=".toList then some (truth (a ≤ b))
  else if operator = ">=".toList then some (truth (a ≥ b))
  else if operator = "<<".toList then some (ofBits (bits a <<< bits b))
  else if operator = ">>".toList then some (a >>> (bits b % 64).toNat)
  else if operator = ['+'] then some (wrap (a + b))
  else if operator = ['-'] then some (wrap (a - b))
  else if operator = ['*'] then some (wrap (a * b))
  else if b = 0 then none
  else if operator = ['/'] then some (wrap (Int.tdiv a b))
  else some (Int.tmod a b)

/-! ## Computing -/

/-- What is left of an expression while it is computed. -/
abbrev Compute := StateT (List Symbol) Sh

/-- What is wrong with an expression. -/
inductive Fault where
  | operand
  | parenthesis
  | colon
  | divisor
  | leftover
  deriving DecidableEq, Repr

/-- What is wrong, in words. -/
def Fault.message : Fault → String
  | .operand => "expecting primary"
  | .parenthesis => "expecting ')'"
  | .colon => "expecting ':'"
  | .divisor => "division by zero"
  | .leftover => "expecting EOF"

/-- Stops with what is wrong with an expression. -/
def wrong {α : Type} (whole : Text) (fault : Fault) : Sh α := do
  fail ("arithmetic expression: ".toList ++ fault.message.toList ++ ": \"".toList ++ whole ++ ['"'])

/-- Whether the next token is this operator; if so it is read. -/
def accept (operator : String) : Compute Bool := do
  match ← get with
  | .operator text :: rest =>
    if text = operator.toList then
      set rest
      return true
    return false
  | _ => return false

/-- The number that a variable holds. -/
def numberOf (name : Text) : Sh Int := do
  let text := ((← get).value? name).getD []
  if text.all isSpace then return 0
  match wholeNumber? none text with
  | some n => return n
  | none => fail ("Illegal number: ".toList ++ text)

/-- The value of an operator for two operands. -/
def compute (whole operator : Text) (a b : Int) : Sh Int := do
  match compute? operator a b with
  | some n => return n
  | none => wrong whole .divisor

/-- A number, a variable, an expression in parentheses, or one of these behind signs. With `counts`
it has effects. -/
def primary (whole : Text) (expression : Bool → Compute Int) (fuel : Nat) (counts : Bool) :
    Compute Int :=
  match fuel with
  | 0 => wrong whole .operand
  | fuel + 1 => do
    let again := primary whole expression fuel counts
    match ← get with
    | .number n :: rest =>
      set rest
      return n
    | .name name :: rest =>
      set rest
      if counts then numberOf name else return 0
    | .operator text :: rest =>
      set rest
      if text = ['('] then
        let n ← expression counts
        unless ← accept ")" do wrong whole .parenthesis
        return n
      else if text = ['+'] then again
      else if text = ['-'] then return wrap (-(← again))
      else if text = ['!'] then return truth ((← again) == 0)
      else if text = ['~'] then return wrap (-(← again) - 1)
      else wrong whole .operand
    | [] => wrong whole .operand

/-- The value of operands joined by operators that bind at least so tightly, of which the first
operand has been read. -/
def joined (whole : Text) (operand : Bool → Compute Int) (fuel : Nat) (counts : Bool)
    (least : Nat) (first : Int) : Compute Int :=
  match fuel with
  | 0 => return first
  | fuel + 1 => do
    match ← get with
    | .operator text :: rest =>
      let level := precedence text
      if level = 0 || level < least then return first
      set rest
      let second ← joined whole operand fuel counts (level + 1) (← operand counts)
      let n ← if counts then compute whole text first second else pure second
      joined whole operand fuel counts least n
    | _ => return first

/-- Operands joined by an operator that looks at the second one only if the first does not
decide. -/
def shortcut (operator : String) (decides : Bool) (operand : Bool → Compute Int) (fuel : Nat)
    (counts : Bool) : Compute Int :=
  match fuel with
  | 0 => operand counts
  | fuel + 1 => do
    let first ← operand counts
    unless ← accept operator do return first
    let isDecided := (first != 0) == decides
    let second ← shortcut operator decides operand fuel (counts && !isDecided)
    return truth (if isDecided then decides else second != 0)

/-- A choice between two values. -/
def chosen (whole : Text) (operand assignment : Bool → Compute Int) (fuel : Nat) (counts : Bool) :
    Compute Int :=
  match fuel with
  | 0 => operand counts
  | fuel + 1 => do
    let test ← operand counts
    unless ← accept "?" do return test
    let onTrue ← assignment (counts && test != 0)
    unless ← accept ":" do wrong whole .colon
    let onFalse ← chosen whole operand assignment fuel (counts && test == 0)
    return if test != 0 then onTrue else onFalse

/-- The operator that an assignment applies before it sets the variable; empty if none. -/
def assigning? (operator : Text) : Option Text :=
  if operator = ['='] then some []
  else
    match operator.reverse with
    | '=' :: front =>
      let text := front.reverse
      if 0 < precedence text && text != ['<'] && text != ['>'] && text != ['='] && text != ['!']
      then some text
      else none
    | _ => none

/-- An expression, which may be an assignment. Nested no deeper than the fuel. -/
def assignment (whole : Text) (fuel : Nat) (counts : Bool) : Compute Int :=
  match fuel with
  | 0 => wrong whole .operand
  | fuel + 1 => do
    let value (counts : Bool) : Compute Int := do
      let steps := (← get).length + 1
      let inner := assignment whole fuel
      let operand := primary whole inner steps
      let joint (counts : Bool) : Compute Int := do
        joined whole operand (2 * steps) counts 1 (← operand counts)
      let all := shortcut "&&" false joint steps
      let any := shortcut "||" true all steps
      chosen whole any inner steps counts
    match ← get with
    | .name name :: .operator text :: rest =>
      match assigning? text with
      | some operator =>
        set rest
        let n ← assignment whole fuel counts
        if !counts then return n
        let n ← if operator.isEmpty then pure n else compute whole operator (← numberOf name) n
        assign name (Text.ofInt n)
        return n
      | none => value counts
    | _ => value counts

/-- The value of an expression. -/
def value (whole : Text) : Sh Int := do
  let tokens := symbols (whole.length + 1) whole
  let (n, rest) ← (assignment whole (tokens.length + 1) true).run tokens
  unless rest.isEmpty do wrong whole .leftover
  return n

end CheckoutLint.Shell.Arithmetic
