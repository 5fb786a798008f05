import CheckoutLint.Text.Basic

/-!
The commands of shell scripts. A word is a list of pieces, of which each remembers whether it stood
in quotes: what an unquoted piece expands to is split into fields and may be a pattern for paths.
-/

namespace CheckoutLint.Shell

/-- How the value of a parameter is used. -/
inductive Use where
  /-- The value itself. -/
  | value
  /-- The number of its characters. -/
  | length
  /-- Another word in place of a value that is missing or, with `orEmpty`, empty. -/
  | otherwise (orEmpty : Bool)
  /-- The same, and the word becomes the value. -/
  | assigned (orEmpty : Bool)
  /-- A value that is missing or, with `orEmpty`, empty is an error that the word describes. -/
  | required (orEmpty : Bool)
  /-- Another word in place of a value that is there and, with `orEmpty`, not empty. -/
  | instead (orEmpty : Bool)
  /-- The value without what a pattern matches at its start or its end. -/
  | without (atStart longest : Bool)
  /-- No use that has a meaning. -/
  | faulty
  deriving DecidableEq, Repr

/-- How a redirection opens a file. -/
inductive FileMode where
  | read
  /-- The file is emptied. With `force`, also a file that is to be kept. -/
  | write (force : Bool)
  | append
  | readWrite
  deriving DecidableEq, Repr

mutual

/-- A part of a word. -/
inductive Piece where
  | literal (text : Text) (quoted : Bool)
  | parameter (name : Text) (use : Use) (argument : List Piece) (quoted : Bool)
  /-- The output of a script. -/
  | output (script : Option Command) (quoted : Bool)
  /-- The value of an arithmetic expression. -/
  | arithmetic (expression : List Piece) (quoted : Bool)
  /-- An element of a list, or all of them. -/
  | element (name : Text) (index : List Piece) (use : Use) (argument : List Piece) (quoted : Bool)

/-- What a variable is set to. -/
inductive Setting where
  | value (appends : Bool) (value : List Piece)
  | element (index : List Piece) (appends : Bool) (value : List Piece)
  /-- The elements of a list. -/
  | elements (appends : Bool) (elements : List (List Piece))

/-- A condition on words. -/
inductive Query where
  | unary (operator : Text) (word : List Piece)
  | binary (operator : Text) (first second : List Piece)
  | inverted (query : Query)
  | both (first second : Query)
  | either (first second : Query)

/-- A change of a numbered stream for the time of a command. -/
inductive Redirect where
  | file (stream : Nat) (mode : FileMode) (target : List Piece)
  /-- The stream becomes a second name of another one, or is closed. -/
  | duplicate (stream : Nat) (isOutput : Bool) (target : List Piece)
  /-- The stream reads a text that the script holds, known by a number. -/
  | document (stream : Nat) (number : Nat)

/-- A command, with the line on which it stands where it may be asked for. -/
inductive Command where
  | simple (line : Nat) (assignments : List (Text × Setting)) (words : List (List Piece))
      (redirects : List Redirect)
  | redirected (line : Nat) (body : Command) (redirects : List Redirect)
  | subshell (line : Nat) (body : Command) (redirects : List Redirect)
  /-- Nothing waits for the command. -/
  | background (line : Nat) (body : Command) (redirects : List Redirect)
  | sequence (commands : List Command)
  | both (first second : Command)
  | either (first second : Command)
  | inverted (body : Command)
  | pipe (stages : List Command)
  | conditional (test onTrue : Command) (onFalse : Option Command)
  /-- A loop that goes on as long as its test has the given outcome. -/
  | loop (goOn : Bool) (test body : Command)
  /-- A loop over words, or over the arguments. -/
  | each (line : Nat) (name : Text) (words : List (List Piece)) (body : Command)
  | choice (line : Nat) (subject : List Piece) (arms : List (List (List Piece) × Option Command))
  | question (line : Nat) (query : Query)
  /-- Gives a command a name by which it can be called. -/
  | define (line : Nat) (name : Text) (body : Command)

end

instance : Inhabited Command := ⟨.sequence []⟩

/-- A word of a command. -/
abbrev Word := List Piece

/-- The text of a word that stands without quotes and expansions, as keywords do. -/
def plain? : Word → Option Text
  | [] => some []
  | [.literal text false] => some text
  | _ => none

/-- Characters of names. -/
def isNameChar (c : Char) : Bool := c.isAlphanum || c = '_'

/-- Whether a character begins a name. -/
def startsName (c : Char) : Bool := c.isAlpha || c = '_'

/-- Whether a text is a name. -/
def isName : Text → Bool
  | [] => false
  | c :: s => startsName c && s.all isNameChar

/-- A text of the form `name=value`. -/
def assignment? (text : Text) : Option (Text × Text) :=
  let name := text.takeWhile isNameChar
  match text.dropWhile isNameChar with
  | '=' :: value => if isName name then some (name, value) else none
  | _ => none

/-- A word of the form `name=value`, of which the name and the sign stand without quotes. -/
def assignedWord? : Word → Option (Text × Word)
  | .literal text false :: pieces =>
    match assignment? text with
    | some (name, []) => some (name, pieces)
    | some (name, value) => some (name, .literal value false :: pieces)
    | none => none
  | _ => none

/-! ## Settings -/

/-- A word with a text in front. -/
def withText (text : Text) (word : Word) : Word :=
  if text.isEmpty then word else .literal text false :: word

/-- The parts of a text around a bracket that closes with a sign behind it, and whether that sign
appends. -/
def atSign? : Text → Option (Text × Bool × Text)
  | [] => none
  | ']' :: '=' :: rest => some ([], false, rest)
  | ']' :: '+' :: '=' :: rest => some ([], true, rest)
  | c :: rest => (atSign? rest).map fun (front, appends, behind) => (c :: front, appends, behind)

/-- The parts of a word around such a bracket. -/
def keyed? : Word → Option (Word × Bool × Word)
  | [] => none
  | .literal text false :: pieces =>
    match atSign? text with
    | some (front, appends, behind) =>
      some (withText front [], appends, withText behind pieces)
    | none =>
      (keyed? pieces).map fun (key, appends, value) => (.literal text false :: key, appends, value)
  | piece :: pieces =>
    (keyed? pieces).map fun (key, appends, value) => (piece :: key, appends, value)

/-- What a word sets in the extended language. -/
def extendedSetting? : Word → Option (Text × Setting)
  | .literal text false :: pieces =>
    let name := text.takeWhile isNameChar
    if !isName name then none
    else
      match text.drop name.length with
      | '=' :: value => some (name, .value false (withText value pieces))
      | '+' :: '=' :: value => some (name, .value true (withText value pieces))
      | '[' :: rest =>
        (keyed? (.literal rest false :: pieces)).map fun (index, appends, value) =>
          (name, .element index appends value)
      | _ => none
  | _ => none

/-- What a word sets. -/
def setting? (isExtended : Bool) (word : Word) : Option (Text × Setting) :=
  if isExtended then extendedSetting? word
  else (assignedWord? word).map fun (name, value) => (name, .value false value)

/-- Parameters with names of a single character. -/
def isSpecial (c : Char) : Bool := "@*#?-$!".toList.contains c || c.isDigit

end CheckoutLint.Shell
