import CheckoutLint.Shell.Token

/-!
What the parts of the grammar have in common: lists of commands and where they end, keywords, the
redirections behind commands, and the lists that variables are set to.
-/

namespace CheckoutLint.Shell

/-- Where a list of commands ends. -/
inductive ListEnd where
  /-- At the end of a line. -/
  | line
  /-- At a keyword or an operator behind at least one command. -/
  | closed
  /-- At a keyword or an operator. -/
  | free
  deriving DecidableEq, Repr

/-- Whether a token ends a list. -/
def Token.closes : Token → Bool
  | .endOfFile => true
  | .keyword text => closingKeywords.contains text
  | .operator text => text = [')'] || text.take 1 = [';'] && text != [';']
  | _ => false

namespace Parse

/-- What the parts of the grammar need of each other: lists, and commands. -/
structure Parts where
  list : ListEnd → Parse (Option Command)
  command : Parse Command

/-- A script inside a word, up to the parenthesis that ends it. -/
def Parts.script (parts : Parts) : Parse (Option Command) := parts.list .free

/-- The next token. -/
def Parts.token (parts : Parts) : Parse Token := Parse.token parts.script

/-- A token where a keyword or an alias may stand, perhaps on a further line. -/
def atCommand : Expected := ⟨true, true, true⟩

/-- Reads a keyword. -/
def Parts.keyword (parts : Parts) (text : String) : Parse Unit := do
  match ← parts.token with
  | .keyword found => if found = text.toList then return
  | _ => pure ()
  unexpected (some (.keyword text.toList))

/-- A list of commands that must not be empty. -/
def Parts.body (parts : Parts) : Parse Command := do
  return (← parts.list .closed).getD (.sequence [])

/-! ## Redirections -/

/-- The word behind an arrow. -/
def Parts.targetWord (parts : Parts) : Parse Word := do
  match ← parts.token with
  | .word pieces _ => return pieces
  | _ => unexpected none

/-- The redirection of an arrow that has been read. -/
def Parts.target (parts : Parts) (stream : Nat) (arrow : Arrow) : Parse Redirect := do
  match arrow with
  | .document strip =>
    let token ← rawToken parts.script true (← steps)
    modify fun reader => { reader with token, expected := {} }
    match token with
    | .word pieces hasQuotes =>
      let mark := pieces.flatMap fun
        | .literal text _ => text
        | _ => []
      modify fun reader =>
        { reader with
          nextDocument := reader.nextDocument + 1
          awaited := reader.awaited ++ [⟨reader.nextDocument, mark, hasQuotes, strip⟩] }
      return .document stream ((← get).nextDocument - 1)
    | _ => unexpected none
  | .file mode => return .file stream mode (← parts.targetWord)
  | .duplicate isOutput =>
    return .duplicate stream isOutput (← parts.targetWord)

/-- The redirections behind a compound command. -/
def Parts.redirects (parts : Parts) (fuel : Nat) (read : List Redirect) :
    Parse (List Redirect) :=
  match fuel with
  | 0 => return read.reverse
  | fuel + 1 => do
    match ← parts.token with
    | .redirect stream arrow =>
      parts.redirects fuel ((← parts.target stream arrow) :: read)
    | _ =>
      again
      return read.reverse

/-! ## Settings -/

/-- The elements of a list, up to the parenthesis that closes it. -/
def Parts.elements (parts : Parts) (fuel : Nat) (read : List Word) : Parse (List Word) :=
  match fuel with
  | 0 => return read.reverse
  | fuel + 1 => do
    match ← behindNewlines parts.script (← steps) (← rawToken parts.script false (← steps)) with
    | .word pieces _ => parts.elements fuel (pieces :: read)
    | .operator [')'] => return read.reverse
    | token =>
      modify fun reader => { reader with token }
      unexpected none

/-- What is set, with the list that may follow the sign. -/
def Parts.withElements (parts : Parts) (setting : Setting) : Parse Setting := do
  match setting with
  | .value appends [] =>
    unless ← isNext '(' do return setting
    let _ ← char
    return .elements appends (← parts.elements (← steps) [])
  | _ => return setting

end Parse

end CheckoutLint.Shell
