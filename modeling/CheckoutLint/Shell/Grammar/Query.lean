import CheckoutLint.Shell.Grammar.Parts

/-!
Conditions in double brackets: words with operators in front of them or between them, joined by
further operators and parentheses.
-/

namespace CheckoutLint.Shell.Parse

/-- The letters of conditions on one word. -/
def unaryLetters : List Char := "bcdefghknprsuvwxzGLOS".toList

/-- The condition on one word that a word in front of it names. -/
def unaryOf? (word : Word) : Option Text :=
  match plain? word with
  | some ['-', letter] => if unaryLetters.contains letter then some ['-', letter] else none
  | _ => none

/-- The operators between two words that are words themselves. -/
def binaryWords : List Text :=
  ["=".toList, "==".toList, "!=".toList, "-eq".toList, "-ne".toList, "-ge".toList,
    "-gt".toList, "-le".toList, "-lt".toList, "-nt".toList, "-ot".toList, "-ef".toList]

/-- The operator between two words that a token is. -/
def binaryOf? : Token → Option Text
  | .word pieces false =>
    match plain? pieces with
    | some text => if binaryWords.contains text then some text else none
    | none => none
  | .redirect _ (.file .read) => some ['<']
  | .redirect _ (.file (.write false)) => some ['>']
  | _ => none

/-- The next token of a condition, which may stand on a further line. -/
def Parts.queryToken (parts : Parts) : Parse Token := do
  let token ← behindNewlines parts.script (← steps) (← pending parts.script)
  modify fun reader => { reader with token }
  return token

/-- Whether a word ends a condition. -/
def endsQuery (word : Word) : Bool := plain? word == some "]]".toList

/-- Stops at the last token of a condition, which does not belong there. -/
def refuseQuery {α : Type} : Parse α := unexpected (some (.operator "]]".toList))

/-- The next word of a condition, on which or between which there is an operator. -/
def Parts.queryWord (parts : Parts) : Parse Word := do
  match ← parts.queryToken with
  | .word pieces _ => if endsQuery pieces then refuseQuery else return pieces
  | _ => refuseQuery

/-- What follows the first word of a condition. -/
def Parts.queryBehind (parts : Parts) (first : Word) : Parse Query := do
  let token ← parts.queryToken
  match binaryOf? token, token with
  | some operator, _ => return .binary operator first (← parts.queryWord)
  | none, .word pieces _ =>
    unless endsQuery pieces do refuseQuery
    again
    return .unary "-n".toList first
  | none, _ =>
    again
    return .unary "-n".toList first

/-- A condition on words, perhaps inverted or in parentheses. -/
def Parts.queryPrimary (parts : Parts) (whole : Parse Query) (fuel : Nat) : Parse Query :=
  match fuel with
  | 0 => unexpected none
  | fuel + 1 => do
    match ← parts.queryToken with
    | .operator ['('] =>
      let query ← whole
      unless (← parts.queryToken) matches .operator [')'] do refuseQuery
      return query
    | .word first _ =>
      if plain? first = some ['!'] then return .inverted (← parts.queryPrimary whole fuel)
      if endsQuery first then refuseQuery
      if let some operator := unaryOf? first then
        return .unary operator (← parts.queryWord)
      parts.queryBehind first
    | _ => refuseQuery

/-- Conditions joined by one operator. -/
def Parts.queryJoined (parts : Parts) (operator : String) (join : Query → Query → Query)
    (operand : Parse Query) (fuel : Nat) : Parse Query :=
  match fuel with
  | 0 => operand
  | fuel + 1 => do
    let first ← operand
    match ← parts.queryToken with
    | .operator text =>
      if text = operator.toList then
        return join first (← parts.queryJoined operator join operand fuel)
    | _ => pure ()
    again
    return first

/-- A condition, nested no deeper than the fuel. -/
def Parts.query (parts : Parts) : Nat → Parse Query
  | 0 => unexpected none
  | depth + 1 => do
    let fuel ← steps
    let primary := parts.queryPrimary (parts.query depth) fuel
    let all := parts.queryJoined "&&" .both primary fuel
    parts.queryJoined "||" .either all fuel

/-- A condition behind double brackets, up to those that close it. -/
def Parts.question (parts : Parts) (line : Nat) : Parse Command := do
  let query ← parts.query maxDepth
  match ← parts.queryToken with
  | .word pieces false => if endsQuery pieces then return .question line query
  | _ => pure ()
  refuseQuery

end CheckoutLint.Shell.Parse
