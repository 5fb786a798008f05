import CheckoutLint.Conversion.Numeral
import CheckoutLint.Shell.Word

/-!
Tokens of shell scripts: operators, words, the arrows of redirections and the ends of lines. A word
that stands without quotes may be a keyword or an alias where one is expected.
-/

namespace CheckoutLint.Shell

/-- Keywords. -/
def keywords : List Text :=
  ["!".toList, "case".toList, "do".toList, "done".toList, "elif".toList, "else".toList,
    "esac".toList, "fi".toList, "for".toList, "if".toList, "in".toList, "then".toList,
    "until".toList, "while".toList, "\x7b".toList, "\x7d".toList]

/-- Keywords that end a list of commands. -/
def closingKeywords : List Text :=
  ["do".toList, "done".toList, "elif".toList, "else".toList, "esac".toList, "fi".toList,
    "then".toList, "\x7d".toList]

/-- The keyword of the extended language that begins a condition. -/
def questionKeyword : Text := "[[".toList

namespace Parse

/-! ## Operators -/

/-- Reads over a comment up to the end of its line. -/
def comment (fuel : Nat) : Parse Unit :=
  match fuel with
  | 0 => return
  | fuel + 1 => do
    match ← plainChar with
    | none => return
    | some '\n' => giveBack (some '\n')
    | some _ => comment fuel

/-- The operator that begins with a character, which may stand twice. -/
def doubled (c : Char) : Parse Token := do
  let after ← char
  if after = some c then return .operator [c, c]
  giveBack after
  return .operator [c]

/-- The arrow that begins with a greater-than or less-than sign. -/
def arrow (c : Char) : Parse Arrow := do
  let after ← char
  if c = '>' then
    match after with
    | some '>' => return .file .append
    | some '|' => return .file (.write true)
    | some '&' => return .duplicate true
    | _ =>
      giveBack after
      return .file (.write false)
  else
    match after with
    | some '<' =>
      let behind ← char
      if behind = some '-' then return .document true
      giveBack behind
      return .document false
    | some '&' => return .duplicate false
    | some '>' => return .file .readWrite
    | _ =>
      giveBack after
      return .file .read

/-- The stream that a word in front of an arrow names; the usual one if there is no word. Its number
may be `long` or not. -/
def streamOf? (long : Bool) (c : Char) : Word → Option Nat
  | [] => some (if c = '>' then 1 else 0)
  | [.literal digits false] =>
    if digits.all Char.isDigit && (digits.length = 1 || long && !digits.isEmpty) then
      some (Conversion.ofDigits 10 digits)
    else none
  | _ => none

/-- Whether some piece of a word stands in quotes. -/
def hasQuotes (word : Word) : Bool :=
  word.any fun
    | .literal _ quoted => quoted
    | _ => false

/-- A word, or an arrow with the digit in front of it. -/
def wordToken (script : Parse (Option Command)) (isMark : Bool) : Parse Token := do
  let word ← wordPieces script isMark
  let after ← char
  match after with
  | some c =>
    if c = '>' || c = '<' then
      if let some stream := streamOf? (← isExtended) c word then
        return .redirect stream (← arrow c)
    giveBack after
    return .word word (hasQuotes word)
  | none => return .word word (hasQuotes word)

/-- The next token, whatever it may be. -/
def rawToken (script : Parse (Option Command)) (isMark : Bool) (fuel : Nat) : Parse Token :=
  match fuel with
  | 0 => return .endOfFile
  | fuel + 1 => do
    let c? ← char
    match c? with
    | none => return .endOfFile
    | some ' ' | some '\t' => rawToken script isMark fuel
    | some '#' =>
      comment (← steps)
      rawToken script isMark fuel
    | some '\n' => return .newline
    | some '&' => doubled '&'
    | some '|' => doubled '|'
    | some ';' => doubled ';'
    | some '(' => return .operator ['(']
    | some ')' => return .operator [')']
    | some _ =>
      giveBack c?
      wordToken script isMark

/-! ## Texts in the script -/

/-- Reads the texts that are awaited, behind the end of a line. -/
def documents (script : Parse (Option Command)) : List Awaited → Parse Unit
  | [] => return
  | awaited :: more => do
    let pieces ← documentPieces script awaited
    modify fun reader =>
      { reader with documents := (awaited.number, pieces) :: reader.documents }
    documents script more

/-- Reads all texts that are awaited. -/
def awaitedDocuments (script : Parse (Option Command)) : Parse Unit := do
  let awaited := (← get).awaited
  modify fun reader => { reader with awaited := [] }
  documents script awaited

/-! ## Tokens -/

/-- The alias of a name, unless its text is being read. -/
def alias? (name : Text) : Parse (Option Text) := do
  let reader ← get
  if reader.interruptions.any fun entry => entry.name == name then return none
  return reader.aliases.lookup name

/-- Puts the text of an alias in front of what is left. -/
def interrupt (name text : Text) : Parse Unit :=
  modify fun reader =>
    let endsBlank := text.getLast?.any fun c => c = ' ' || c = '\t'
    { reader with
      rest := text
      interruptions := ⟨name, reader.rest, endsBlank⟩ :: reader.interruptions }

/-- The last token if it is to be read again, else the next one. -/
def pending (script : Parse (Option Command)) : Parse Token := do
  let reader ← get
  if reader.again then
    set { reader with again := false }
    return reader.token
  rawToken script false (← steps)

/-- The next token that is not the end of a line. -/
def behindNewlines (script : Parse (Option Command)) (fuel : Nat) (token : Token) : Parse Token :=
  match fuel, token with
  | fuel + 1, .newline => do
    awaitedDocuments script
    expect {}
    behindNewlines script fuel (← rawToken script false (← steps))
  | _, token => return token

/-- The next token, read as is expected. -/
def tokenAs (script : Parse (Option Command)) (fuel : Nat) (expected : Expected) : Parse Token :=
  match fuel with
  | 0 => return .endOfFile
  | fuel + 1 => do
    let token ← pending script
    let token ← if expected.afterNewlines then behindNewlines script (← steps) token else pure token
    let further := (← get).expected
    let expected : Expected :=
      ⟨expected.afterNewlines || further.afterNewlines, expected.keyword || further.keyword,
        expected.alias || further.alias⟩
    expect {}
    match token with
    | .word pieces false =>
      match plain? pieces with
      | some text =>
        let isKeyword := keywords.contains text ||
          (← get).isExtended && text = questionKeyword
        if expected.keyword && isKeyword then return .keyword text
        if expected.alias then
          if let some value ← alias? text then
            unless value.isEmpty do interrupt text value
            return ← tokenAs script fuel expected
        return token
      | none => return token
    | _ => return token

/-- The next token. -/
def token (script : Parse (Option Command)) : Parse Token := do
  let token ← tokenAs script (← steps) (← get).expected
  modify fun reader => { reader with token }
  return token

end Parse

end CheckoutLint.Shell
