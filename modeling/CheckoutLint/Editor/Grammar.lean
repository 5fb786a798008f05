import CheckoutLint.Editor.Substitution
import CheckoutLint.Regex.Grammar

/-!
Scripts of the stream editor: commands, each a letter behind the addresses of the lines that it is
for, parted by ends of lines or semicolons.

Main statement:

* `Grammar.delimited?_closed`: a text without signs of its own ends at its delimiter.
-/

namespace CheckoutLint.Editor

/-! ## Scripts -/

/-- An address of lines. -/
inductive Address where
  | line (number : Nat)
  | last
  | found (sought : Sought)
  deriving DecidableEq, Repr

/-- The lines for which a command is: those at an address, or from one address to another one. -/
structure Selection where
  first : Option Address := none
  finish : Option Address := none
  inverted : Bool := false
  deriving DecidableEq, Repr

/-- What a command does. -/
inductive Action where
  | print
  | delete
  | quit
  | number
  | substitute (substitution : Substitution)
  deriving DecidableEq, Repr

/-- A command. -/
structure Instruction where
  selection : Selection
  action : Action
  deriving DecidableEq, Repr

/-- What is wrong with a script, and how many characters of it had been read. -/
structure Problem where
  position : Nat
  message : Text
  deriving DecidableEq, Repr

namespace Grammar

/-! ## Delimited texts -/

/-- A text up to a delimiter, and what follows that; nothing if the text or its line ends before. A
backslash takes the meaning of the delimiter away; an `n` behind one is the end of a line in an
expression. Takes at most `fuel` steps. -/
def delimited? (delimiter : Char) (isRegex : Bool) (fuel : Nat) (text : Text) :
    Option (Text × Text) :=
  match fuel, text with
  | 0, _ | _, [] => none
  | fuel + 1, c :: rest =>
    let more (front : Text) (rest : Text) : Option (Text × Text) :=
      (delimited? delimiter isRegex fuel rest).map fun (text, rest) => (front ++ text, rest)
    if c = delimiter then some ([], rest)
    else if c = '\n' then none
    else if c = '\\' then
      match rest with
      | [] => none
      | d :: rest =>
        if d = 'n' && isRegex then more ['\n'] rest
        else if d = '\n' || d = delimiter && (isRegex || d ≠ '&') then more [d] rest
        else more ['\\', d] rest
    else more [c] rest

/-- A part without special characters ends at the delimiter. -/
theorem delimited?_closed {delimiter : Char} {text : Text}
    (h : ∀ c ∈ text, c ≠ delimiter ∧ c ≠ '\n' ∧ c ≠ '\\') (isRegex : Bool)
    (rest : Text) {fuel : Nat} (enough : text.length < fuel) :
    delimited? delimiter isRegex fuel (text ++ delimiter :: rest) = some (text, rest) := by
  induction text generalizing fuel with
  | nil =>
    obtain ⟨fuel, rfl⟩ := Nat.exists_eq_succ_of_ne_zero (Nat.ne_of_gt enough)
    simp [delimited?]
  | cons c text ih =>
    obtain ⟨fuel, rfl⟩ := Nat.exists_eq_succ_of_ne_zero (Nat.ne_of_gt (Nat.zero_lt_of_lt enough))
    have ih := ih (fun c mem => h c (List.mem_cons_of_mem _ mem)) (Nat.lt_of_succ_lt_succ enough)
    obtain ⟨notEnd, notLine, notSlash⟩ := h c List.mem_cons_self
    simp [delimited?, notEnd, notLine, notSlash, ih]

/-- The parts of what is put in place of a match. -/
def pieces : Text → Replacement
  | '\\' :: 'n' :: rest => .text ['\n'] :: pieces rest
  | '\\' :: 't' :: rest => .text ['\t'] :: pieces rest
  | '\\' :: c :: rest =>
    (if c.isDigit then .group (c.toNat - '0'.toNat) else .text [c]) :: pieces rest
  | '&' :: rest => .group 0 :: pieces rest
  | c :: rest => .text [c] :: pieces rest
  | [] => []

/-! ## Reading -/

/-- What has been read of a script. -/
structure Progress where
  rest : Text
  position : Nat := 0

/-- Reading of a script. -/
abbrev Reading := StateT Progress (Except Problem)

/-- Says what is wrong at the place that has been reached. -/
def refuse {α : Type} (message : String) : Reading α := do
  throw ⟨(← get).position, message.toList⟩

/-- Goes on behind so many characters. -/
def advance (count : Nat) : Reading Unit :=
  modify fun progress => ⟨progress.rest.drop count, progress.position + count⟩

/-- The next character, which is not taken. -/
def peek : Reading (Option Char) := return (← get).rest.head?

/-- The next character. -/
def take : Reading (Option Char) := do
  let c ← peek
  if c.isSome then advance 1
  return c

/-- Passes over blanks. -/
def skipBlanks : Reading Unit := do
  advance ((← get).rest.takeWhile fun c => c = ' ' || c = '\t').length

/-- Passes over a character, if it comes next. -/
def skip? (wanted : Char) : Reading Bool := do
  let isNext := (← peek) = some wanted
  if isNext then advance 1
  return isNext

/-- The digits in front, as a number; zero if there are none. -/
def number : Reading Nat := do
  let digits := (← get).rest.takeWhile Char.isDigit
  advance digits.length
  return digits.foldl (fun n c => 10 * n + (c.toNat - '0'.toNat)) 0

/-- What stands up to a delimiter; fails with a message if that does not come in the line. -/
def upTo (delimiter : Char) (isRegex : Bool) (message : String) : Reading Text := do
  let all := (← get).rest
  match delimited? delimiter isRegex (all.length + 1) all with
  | some (text, rest) =>
    advance (all.length - rest.length)
    return text
  | none =>
    advance (all.takeWhile (· ≠ '\n')).length
    refuse message

/-- The command must end here. -/
def needEnd : Reading Unit := do
  skipBlanks
  if let some c ← take then
    unless c = ';' || c = '\n' do refuse "extra characters after command"

/-- The expression that a text writes. -/
def sought (isExtended : Bool) (manner : Regex.Manner) (text : Text) : Reading Sought := do
  if text.isEmpty then refuse "no previous regular expression"
  match Regex.Grammar.parse { extended := isExtended, strict := true } text with
  | .error problem => throw ⟨(← get).position, problem.message⟩
  | .ok regex => return ⟨regex, manner⟩

/-- An address, if there is one. -/
def address? (isExtended : Bool) : Reading (Option Address) := do
  match ← peek with
  | some '/' =>
    advance 1
    let text ← upTo '/' true "unterminated address regex"
    return some (.found (← sought isExtended {} text))
  | some '$' =>
    advance 1
    return some .last
  | some c => if c.isDigit then return some (.line (← number)) else return none
  | none => return none

/-- The addresses of a command. -/
def selection (isExtended : Bool) : Reading Selection := do
  let first ← address? isExtended
  skipBlanks
  let mut finish : Option Address := none
  if first.isSome && (← skip? ',') then
    skipBlanks
    finish ← address? isExtended
    if finish.isNone then refuse "unexpected \x60,'"
    skipBlanks
  let inverted ← skip? '!'
  return ⟨first, finish, inverted⟩

/-- The letters behind a replacement. Takes at most `fuel` steps. -/
def flags (fuel : Nat) (read : Substitution) : Reading Substitution :=
  match fuel with
  | 0 => return read
  | fuel + 1 => do
    match ← peek with
    | none => return read
    | some c =>
      if c.isDigit then
        let first ← number
        if first = 0 then refuse "number option to \x60s' command may not be zero"
        flags fuel { read with first }
      else
        advance 1
        match c with
        | '\n' | ';' => return read
        | ' ' => flags fuel read
        | 'i' | 'I' =>
          flags fuel { read with sought := { read.sought with manner := { ignoreCase := true } } }
        | 'p' => flags fuel { read with prints := true }
        | 'g' => flags fuel { read with all := true }
        | _ => refuse "unknown option to \x60s'"

/-- A replacement of matches, behind its letter. -/
def substitution (isExtended : Bool) : Reading Substitution := do
  let unended := "unterminated \x60s' command"
  let some delimiter ← take | refuse unended
  let text ← upTo delimiter true unended
  let put ← upTo delimiter false unended
  let replacement := pieces put
  let sought ← sought isExtended {} text
  let read ← flags ((← get).rest.length + 1) ⟨sought, replacement, 1, false, false⟩
  if sought.regex.groupCount < replacement.greatest then
    throw ⟨(← get).position, "invalid reference \\".toList ++ Text.ofNat replacement.greatest ++
      " on \x60s' command's RHS".toList⟩
  return read

/-- The rest of a command whose letter has been read. -/
def action (isExtended : Bool) (letter : Char) : Reading Action := do
  let plain (action : Action) : Reading Action := do
    needEnd
    return action
  match letter with
  | 'p' => plain .print
  | 'd' => plain .delete
  | 'q' => plain .quit
  | '=' => plain .number
  | 's' => return .substitute (← substitution isExtended)
  | c => throw ⟨(← get).position, "unknown command: \x60".toList ++ [c, '\'']⟩

/-- The commands that are left. Takes at most `fuel` steps. -/
def commands (isExtended : Bool) (fuel : Nat) : Reading (List Instruction) :=
  match fuel with
  | 0 => return []
  | fuel + 1 => do
    advance ((← get).rest.takeWhile fun c => c.isWhitespace || c = ';').length
    if (← peek).isNone then return []
    let selection ← selection isExtended
    skipBlanks
    match ← take with
    | none => refuse "missing command"
    | some letter =>
      let action ← action isExtended letter
      return ⟨selection, action⟩ :: (← commands isExtended fuel)

/-- Reads a script. -/
def script (isExtended : Bool) (text : Text) : Except Problem (List Instruction) :=
  (commands isExtended (text.length + 1)).run' { rest := text }

end Grammar

end CheckoutLint.Editor
