import CheckoutLint.Shell.Grammar.Query

/-!
The grammar of shell scripts: lists of pipelines, the compound commands, and simple commands with
their assignments and redirections. A script is read one complete command at a time, so that what
has been read is run before the rest is looked at.
-/

namespace CheckoutLint.Shell

/-- Names that cannot be given to functions, being those of commands that the shell depends on. -/
def specialNames : List Text :=
  [".".toList, ":".toList, "break".toList, "continue".toList, "eval".toList, "exec".toList,
    "exit".toList, "export".toList, "local".toList, "readonly".toList, "return".toList,
    "set".toList, "shift".toList, "times".toList, "trap".toList, "unset".toList]

namespace Parse

/-! ## Simple commands -/

/-- The parts of a simple command that have been read, newest first. -/
structure Simple where
  assignments : List (Text × Setting) := []
  words : List Word := []
  redirects : List Redirect := []

/-- The command that has been read. -/
def Simple.command (read : Simple) (line : Nat) : Command :=
  .simple line read.assignments.reverse read.words.reverse read.redirects.reverse

/-- A word of a simple command. -/
def Parts.simpleWord (parts : Parts) (read : Simple) (word : Word) : Parse Simple := do
  let extended ← isExtended
  match if read.words.isEmpty then setting? extended word else none with
  | some (name, setting) =>
    return { read with assignments := (name, ← parts.withElements setting) :: read.assignments }
  | none => return { read with words := word :: read.words }

/-- The name that a function is given. -/
def functionName (word : Word) : Parse Text := do
  let name := (plain? word).getD []
  unless isName name && !specialNames.contains name do fail "Syntax error: Bad function name"
  return name

/-- A function whose name has been read. -/
def Parts.function (parts : Parts) (name : Text) : Parse Command := do
  expect atCommand
  let line := (← get).line
  return .define line name (← parts.command)

/-- A simple command on a line, or the definition of a function. -/
def Parts.simple (parts : Parts) (line fuel : Nat) (read : Simple) : Parse Command := do
  let finish : Parse Command := do
    again
    return read.command line
  match fuel with
  | 0 => finish
  | fuel + 1 =>
    if read.words.isEmpty then expect ⟨false, false, true⟩
    match ← parts.token with
    | .word pieces _ => parts.simple line fuel (← parts.simpleWord read pieces)
    | .redirect stream arrow =>
      let redirect ← parts.target stream arrow
      parts.simple line fuel { read with redirects := redirect :: read.redirects }
    | .operator ['('] =>
      match read with
      | ⟨[], [word], []⟩ =>
        match ← parts.token with
        | .operator [')'] => parts.function (← functionName word)
        | _ => unexpected (some (.operator [')']))
      | _ => finish
    | _ => finish

/-! ## Compound commands -/

/-- The branches of a conditional, behind the keyword that begins one. -/
def Parts.branches (parts : Parts) (fuel : Nat) : Parse Command :=
  match fuel with
  | 0 => unexpected none
  | fuel + 1 => do
    let test ← parts.body
    parts.keyword "then"
    let onTrue ← parts.body
    match ← parts.token with
    | .keyword text =>
      if text = "elif".toList then return .conditional test onTrue (some (← parts.branches fuel))
      if text = "else".toList then return .conditional test onTrue (some (← parts.body))
    | _ => pure ()
    again
    return .conditional test onTrue none

/-- The words of a loop up to the end of the line. -/
def Parts.words (parts : Parts) (fuel : Nat) (read : List Word) : Parse (List Word) :=
  match fuel with
  | 0 => return read.reverse
  | fuel + 1 => do
    match ← parts.token with
    | .word pieces _ => parts.words fuel (pieces :: read)
    | .newline | .operator [';'] => return read.reverse
    | _ => unexpected none

/-- The body of a loop, up to the keyword that closes it. -/
def Parts.loopBody (parts : Parts) : Parse Command := do
  expect atCommand
  parts.keyword "do"
  parts.body

/-- A loop over words, behind its keyword. -/
def Parts.loopOverWords (parts : Parts) (line : Nat) : Parse Command := do
  let name ←
    match ← parts.token with
    | .word pieces false => pure ((plain? pieces).getD [])
    | _ => pure []
  unless isName name do fail "Syntax error: Bad for loop variable"
  expect atCommand
  let token ← parts.token
  let words ←
    if token matches .keyword ['i', 'n'] then parts.words (← steps) []
    else
      unless token matches .operator [';'] do again
      pure [[.parameter ['@'] .value [] true]]
  return .each line name words (← parts.loopBody)

/-! ## Choices -/

/-- The patterns of an arm, of which the first token has been read, up to the parenthesis behind
them. -/
def Parts.patterns (parts : Parts) (fuel : Nat) (token : Token) (read : List Word) :
    Parse (List Word) :=
  match fuel with
  | 0 => return read.reverse
  | fuel + 1 => do
    let pattern : Word :=
      match token with
      | .word pieces _ => pieces
      | .keyword text => [.literal text false]
      | _ => []
    match ← parts.token with
    | .operator ['|'] => parts.patterns fuel (← parts.token) (pattern :: read)
    | .operator [')'] => return (pattern :: read).reverse
    | _ => unexpected (some (.operator [')']))

/-- The arms of a choice, up to the keyword that closes it. -/
def Parts.arms (parts : Parts) (fuel : Nat) (read : List (List Word × Option Command)) :
    Parse (List (List Word × Option Command)) :=
  match fuel with
  | 0 => return read.reverse
  | fuel + 1 => do
    let isEsac (token : Token) : Bool := token matches .keyword ['e', 's', 'a', 'c']
    expect ⟨true, true, false⟩
    let token ← parts.token
    if isEsac token then return read.reverse
    let token ← if token matches .operator ['('] then parts.token else pure token
    let patterns ← parts.patterns (← steps) token []
    let body ← parts.list .free
    expect ⟨true, true, false⟩
    match ← parts.token with
    | .operator [';', ';'] => parts.arms fuel ((patterns, body) :: read)
    | token =>
      if isEsac token then return ((patterns, body) :: read).reverse
      unexpected (some (.operator ";;".toList))

/-- A choice, behind its keyword. -/
def Parts.choice (parts : Parts) (line : Nat) : Parse Command := do
  match ← parts.token with
  | .word subject _ =>
    expect atCommand
    parts.keyword "in"
    return .choice line subject (← parts.arms (← steps) [])
  | _ => unexpected (some (.word [] false))

/-- A command with the redirections behind it. -/
def Parts.withRedirects (parts : Parts) (line : Nat) (body : Command) : Parse Command := do
  expect ⟨false, true, true⟩
  match ← parts.redirects (← steps) [], body with
  | redirects, .subshell line body _ => return .subshell line body redirects
  | [], body => return body
  | redirects, body => return .redirected line body redirects

/-- A command. -/
def Parts.anyCommand (parts : Parts) : Parse Command := do
  let line := (← get).line
  match ← parts.token with
  | .word _ _ | .redirect _ _ =>
    again
    parts.simple (← get).line (← steps) {}
  | .operator ['('] =>
    let body ← parts.body
    match ← parts.token with
    | .operator [')'] => parts.withRedirects line (.subshell line body [])
    | _ => unexpected (some (.operator [')']))
  | .keyword text =>
    let compound (body : Parse Command) (closing : String) : Parse Command := do
      let command ← body
      parts.keyword closing
      parts.withRedirects line command
    let loop (goOn : Bool) : Parse Command := do
      let test ← parts.body
      parts.keyword "do"
      return .loop goOn test (← parts.body)
    if text = "if".toList then compound (do parts.branches (← steps)) "fi"
    else if text = "while".toList then compound (loop true) "done"
    else if text = "until".toList then compound (loop false) "done"
    else if text = "for".toList then compound (parts.loopOverWords line) "done"
    else if text = "\x7b".toList then compound parts.body "\x7d"
    else if text = "case".toList then parts.withRedirects line (← parts.choice line)
    else if text = questionKeyword then parts.withRedirects line (← parts.question line)
    else unexpected none
  | _ => unexpected none

/-! ## Lists -/

/-- The further commands of a pipeline, newest first. -/
def Parts.stages (parts : Parts) (fuel : Nat) (read : List Command) : Parse (List Command) :=
  match fuel with
  | 0 => return read
  | fuel + 1 => do
    match ← parts.token with
    | .operator ['|'] =>
      expect atCommand
      parts.stages fuel ((← parts.command) :: read)
    | _ =>
      again
      return read

/-- Commands joined by pipes, perhaps inverted. -/
def Parts.pipeline (parts : Parts) : Parse Command := do
  let isInverted := (← parts.token) matches .keyword ['!']
  if isInverted then expect ⟨false, true, true⟩ else again
  let first ← parts.command
  let body :=
    match ← parts.stages (← steps) [first] with
    | [only] => only
    | stages => .pipe stages.reverse
  return if isInverted then .inverted body else body

/-- The conditions behind a pipeline, which group to the left. -/
def Parts.conditions (parts : Parts) (fuel : Nat) (first : Command) : Parse Command :=
  match fuel with
  | 0 => return first
  | fuel + 1 => do
    match ← parts.token with
    | .operator ['&', '&'] =>
      expect atCommand
      parts.conditions fuel (.both first (← parts.pipeline))
    | .operator ['|', '|'] =>
      expect atCommand
      parts.conditions fuel (.either first (← parts.pipeline))
    | _ =>
      again
      return first

/-- A command for which nothing waits. -/
def inBackground (command : Command) : Command :=
  match command with
  | .redirected line body redirects => .background line body redirects
  | _ => .background 0 command []

/-- The commands of a list in order, given newest first. -/
def listed : List Command → Option Command
  | [] => none
  | [only] => some only
  | commands => some (.sequence commands.reverse)

/-- The commands of a list up to its end, behind those that have been read. -/
def Parts.commands (parts : Parts) (ending : ListEnd) (fuel : Nat) (isFirst : Bool)
    (read : List Command) : Parse (Option Command) :=
  match fuel with
  | 0 => return listed read
  | fuel + 1 => do
    expect ⟨ending != .line, true, true⟩
    let token ← parts.token
    match token with
    | .newline =>
      awaitedDocuments parts.script
      return listed read
    | .endOfFile =>
      awaitedDocuments parts.script
      again
      return listed read
    | _ => again
    if token.closes && ending != .line && (!isFirst || ending == .free) then return listed read
    let first ← parts.pipeline
    let command ← parts.conditions (← steps) first
    match ← parts.token with
    | .operator ['&'] => parts.commands ending fuel false (inBackground command :: read)
    | .operator [';'] => parts.commands ending fuel false (command :: read)
    | .newline =>
      again
      parts.commands ending fuel false (command :: read)
    | .endOfFile =>
      awaitedDocuments parts.script
      again
      return listed (command :: read)
    | _ =>
      if ending == .line then unexpected none
      again
      return listed (command :: read)

/-- The parts of the grammar, nested no deeper than the fuel. -/
def parts : Nat → Parts
  | 0 => ⟨fun _ => fail "Syntax error: too deeply nested",
      fail "Syntax error: too deeply nested"⟩
  | depth + 1 =>
    { list := fun ending => do (parts depth).commands ending (← steps) true []
      command := do (parts depth).anyCommand }

/-- The next complete command, if the line holds one, and whether it is the last. -/
def complete : Parse (Option Command × Bool) := do
  modify fun reader => { reader with again := false, awaited := [], expected := {} }
  let command ← (parts maxDepth).list .line
  let reader ← get
  return (command, reader.again && reader.token matches .endOfFile)

/-- All that is left, as if it stood in double quotes. -/
def quotedText : Parse Word := do
  let noMark := ['\n', '\n']
  documentPieces (parts maxDepth).script ⟨0, noMark, false, false⟩

end Parse

end CheckoutLint.Shell
