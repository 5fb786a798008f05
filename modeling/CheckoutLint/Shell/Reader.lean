import CheckoutLint.Shell.Command

/-!
Reading a script character by character. The reader knows its line; an alias puts its text in front
of what is left, and a backslash at the end of a line joins it to the next one.

Main statement:

* `Reader.dropJoins_length_le`: joining lines never lengthens what is left.
-/

namespace CheckoutLint.Shell

/-- Why a script cannot be read, and on which line that shows. -/
structure Fault where
  line : Nat
  message : Text
  deriving DecidableEq, Repr

/-- What a script is interrupted by while the text of an alias is read. -/
structure Interruption where
  /-- The alias. -/
  name : Text
  /-- What follows its text. -/
  rest : Text
  /-- Whether its text ends with a blank, after which the next word may be an alias too. -/
  endsBlank : Bool
  deriving DecidableEq, Repr

/-- What the next token may be besides a word. -/
structure Expected where
  /-- Ends of lines in front of it do not count. -/
  afterNewlines : Bool := false
  keyword : Bool := false
  «alias» : Bool := false
  deriving DecidableEq, Repr

/-- How a redirection reads before its target. -/
inductive Arrow where
  | file (mode : FileMode)
  | duplicate (isOutput : Bool)
  | document (strip : Bool)
  deriving DecidableEq, Repr

/-- A token of a script. -/
inductive Token where
  | endOfFile
  | newline
  | operator (text : Text)
  | keyword (text : Text)
  | redirect (stream : Nat) (arrow : Arrow)
  | word (pieces : Word) (hasQuotes : Bool)

/-- A text in the script that is still to come: its number, the line that ends it, whether it is
taken as it is, and whether tabs at the start of lines are dropped. -/
structure Awaited where
  number : Nat
  mark : Text
  verbatim : Bool
  strip : Bool

/-- A script on the way of being read. -/
structure Reader where
  rest : Text
  /-- Whether the language has lists, conditions in brackets and more. -/
  isExtended : Bool := false
  /-- More steps than reading the script can take. -/
  bound : Nat := 0
  line : Nat := 1
  interruptions : List Interruption := []
  expected : Expected := {}
  /-- The last token. -/
  token : Token := .endOfFile
  /-- Whether the last token is to be read again. -/
  again : Bool := false
  aliases : List (Text × Text) := []
  awaited : List Awaited := []
  /-- The texts that the script holds, by their numbers. -/
  documents : List (Nat × Word) := []
  /-- The number of the next of these texts. -/
  nextDocument : Nat := 0

/-- Reading a script. -/
abbrev Parse := EStateM Fault Reader

namespace Reader

/-- The reader at the start of a script. It takes no more steps than there are characters, even if
every one of them names the longest alias. -/
def ofText (isExtended : Bool) (script : Text) (aliases : List (Text × Text)) : Reader where
  rest := script
  isExtended := isExtended
  aliases := aliases
  bound :=
    let longest := aliases.foldl (fun total entry => total + entry.2.length + 1) 1
    (script.length + 16) * longest * longest

/-! ## Characters -/

/-- A text without the joined ends of lines at its front, and how many there were. -/
def dropJoins : Text → Text × Nat
  | '\\' :: '\n' :: s =>
    let (rest, joins) := dropJoins s
    (rest, joins + 1)
  | s => (s, 0)

/-- Joining lines never lengthens what is left. -/
theorem dropJoins_length_le (s : Text) : (dropJoins s).1.length ≤ s.length := by
  fun_induction dropJoins s with
  | case1 s rest joins eq ih =>
    rw [eq] at ih
    have shorter : rest.length ≤ s.length := ih
    simp only [List.length_cons]
    omega
  | case2 => simp

/-- Goes on behind the texts of aliases that have been read to their ends. -/
def leaveAliases (reader : Reader) : List Interruption → Reader
  | [] => reader
  | interruption :: outer =>
    match reader.rest with
    | _ :: _ => reader
    | [] =>
      leaveAliases
        { reader with
          rest := interruption.rest
          interruptions := outer
          expected :=
            { reader.expected with «alias» := reader.expected.alias || interruption.endsBlank } }
        outer

/-- The next character. -/
def next (reader : Reader) : Option Char × Reader :=
  let reader := reader.leaveAliases reader.interruptions
  match reader.rest with
  | [] => (none, reader)
  | c :: rest =>
    let line := if c = '\n' then reader.line + 1 else reader.line
    (some c, { reader with rest, line })

/-- Gives a character back. -/
def giveBack (reader : Reader) (c : Char) : Reader :=
  { reader with
    rest := c :: reader.rest
    line := if c = '\n' then reader.line - 1 else reader.line }

end Reader

namespace Parse

/-- The next character, as it is. -/
def plainChar : Parse (Option Char) := do
  let (c, reader) := (← get).next
  set reader
  return c

/-- The next character, lines joined. -/
def char : Parse (Option Char) := do
  let reader ← get
  let reader := reader.leaveAliases reader.interruptions
  let (rest, joins) := Reader.dropJoins reader.rest
  set { reader with rest, line := reader.line + joins }
  plainChar

/-- Gives a character back; the end of the script needs not be given back. -/
def giveBack (c : Option Char) : Parse Unit :=
  match c with
  | some c => modify fun reader => reader.giveBack c
  | none => return

/-- Stops at a fault. -/
def fail {α : Type} (message : String) : Parse α := do
  throw ⟨(← get).line, message.toList⟩

/-- How many steps a loop over the script may take. -/
def steps : Parse Nat := return (← get).bound

/-- Whether the language is the extended one. -/
def isExtended : Parse Bool := return (← get).isExtended

/-- Whether a character comes next, in the extended language. -/
def isNext (c : Char) : Parse Bool := do
  let reader ← get
  return reader.isExtended && reader.rest.head? = some c

/-- The name of a token in messages. -/
def nameOf : Token → Text
  | .endOfFile => "end of file".toList
  | .newline => "newline".toList
  | .redirect _ _ => "redirection".toList
  | .word _ _ => "word".toList
  | .operator text | .keyword text => '"' :: text ++ ['"']

/-- Stops at the last token, which does not belong there. -/
def unexpected {α : Type} (wanted : Option Token) : Parse α := do
  let found := nameOf (← get).token
  let wish :=
    match wanted with
    | some token => " (expecting ".toList ++ nameOf token ++ [')']
    | none => []
  throw ⟨(← get).line, "Syntax error: ".toList ++ found ++ " unexpected".toList ++ wish⟩

/-- Lets the last token be read again. -/
def again : Parse Unit := modify fun reader => { reader with again := true }

/-- Says what the next token may be. -/
def expect (expected : Expected) : Parse Unit := modify fun reader => { reader with expected }

end Parse

end CheckoutLint.Shell
