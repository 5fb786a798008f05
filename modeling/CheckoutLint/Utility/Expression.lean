import CheckoutLint.Regex.Grammar
import CheckoutLint.Utility.Quantity

/-!
The utility that computes expressions: every argument is an operand or an operator. Values are
texts; some of them are whole numbers, of any size.
-/

namespace CheckoutLint.Utility.Expression

/-! ## Operations -/

/-- Whether a value counts as nothing. -/
def isNull (value : Text) : Bool := value.isEmpty || Quantity.readSigned? value = some 0

/-- The number that a value is. -/
def number (value : Text) : Work Int := do
  match Quantity.readSigned? value with
  | some n => return n
  | none => fail 2 "non-integer argument".toList

/-- Compares values, as numbers if both are. -/
def compare (a b : Text) : Ordering :=
  match Quantity.readSigned? a, Quantity.readSigned? b with
  | some a, some b => Ord.compare a b
  | _, _ => compareOfLessAndEq a b

/-- What a pattern matches at the front of a text: how long that is, or the text of the first group
if there are groups. -/
def matchFront (text pattern : Text) : Work Text := do
  match Regex.Grammar.parse { emptyRanges := true } pattern with
  | .error problem => fail 2 problem.message
  | .ok regex =>
    let found := (regex.ends {} { rest := text }).head?
    if regex.groupCount = 0 then return Text.ofNat ((found.map Regex.Spot.position).getD 0)
    return (found.map fun behind => behind.groupText 1).getD []

/-- The operators that compute, from those that bind least to those that bind most. -/
def ranks : List (List String) :=
  [["|"], ["&"], ["<", "<=", "=", "!=", ">=", ">"], ["+", "-"], ["*", "/", "%"], [":"]]

/-- Applies an operator to two values. -/
def apply (operator : String) (a b : Text) : Work Text := do
  let truth (holds : Bool) : Text := if holds then ['1'] else ['0']
  match operator with
  | "|" => return if !isNull a then a else if isNull b then ['0'] else b
  | "&" => return if isNull a || isNull b then ['0'] else a
  | "<" => return truth (compare a b == .lt)
  | "<=" => return truth (compare a b != .gt)
  | "=" => return truth (compare a b == .eq)
  | "!=" => return truth (compare a b != .eq)
  | ">=" => return truth (compare a b != .lt)
  | ">" => return truth (compare a b == .gt)
  | ":" => matchFront a b
  | operator =>
    let x ← number a
    let y ← number b
    if (operator = "/" || operator = "%") && y = 0 then fail 2 "division by zero".toList
    return Text.ofInt (match operator with
      | "+" => x + y
      | "-" => x - y
      | "*" => x * y
      | "/" => x.tdiv y
      | _ => x.tmod y)

/-! ## Expressions -/

/-- What is left of the arguments. -/
abbrev Reading := StateT (List Text) Work

/-- An operand: an argument, or an expression in parentheses. -/
def operand (whole : Reading Text) : Reading Text := do
  match ← get with
  | [] =>
    let last := ((← getThe Task).call.arguments.getLast?).getD []
    fail 2 ("syntax error: missing argument after ".toList ++ Shown.exactly last)
  | ['('] :: rest =>
    set rest
    let value ← whole
    match ← get with
    | [')'] :: rest =>
      set rest
      return value
    | _ => fail 2 "syntax error: expecting ')'".toList
  | argument :: rest =>
    set rest
    return argument

/-- Operands of the next rank with operators of one rank between them, applied from the left. -/
def chain (words : List String) (next : Reading Text) (fuel : Nat) (value : Text) : Reading Text :=
  match fuel with
  | 0 => return value
  | fuel + 1 => do
    match ← get with
    | argument :: rest =>
      if words.contains (String.ofList argument) then
        set rest
        chain words next fuel (← apply (String.ofList argument) value (← next))
      else return value
    | [] => return value

/-- An expression whose operators have these ranks. -/
def ranked (size : Nat) (whole : Reading Text) : List (List String) → Reading Text
  | [] => operand whole
  | words :: ranks => do
    let next := ranked size whole ranks
    chain words next size (← next)

/-- A whole expression, nested no deeper than the fuel. -/
def expression (size : Nat) : Nat → Reading Text
  | 0 => return []
  | fuel + 1 => ranked size (expression size fuel) ranks

/-- Computes the expression of the arguments. -/
def expr : Work Unit := do
  inTrouble 3
  let words := (← get).call.arguments
  if words.isEmpty then misuse 2 "missing operand".toList
  let size := words.length + 1
  let (value, rest) ← (expression size size).run words
  if let next :: _ := rest then
    fail 2 ("syntax error: unexpected argument ".toList ++ Shown.exactly next)
  putLine value
  if isNull value then mark 1

end CheckoutLint.Utility.Expression
