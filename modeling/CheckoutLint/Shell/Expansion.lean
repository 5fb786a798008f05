import CheckoutLint.Shell.Assignment
import CheckoutLint.Shell.Paths

/-!
Expansion of words. Parameters, expressions and the output of scripts are put in place; what was not
quoted is then split into fields and may be a pattern for paths. How a script is run is a parameter
here.
-/

namespace CheckoutLint.Shell

open Conversion

/-- A part of an expanded word: a text, whether it is quoted, and whether it is split. -/
inductive Part where
  | text (text : Text) (quoted splits : Bool)
  /-- The end of a field. -/
  | gap
  deriving DecidableEq, Repr

/-- All the text of parts. -/
def joinParts (parts : List Part) : Text :=
  parts.flatMap fun
    | .text text _ _ => text
    | .gap => []

/-- The characters of parts, each with whether it is quoted. -/
def markParts (parts : List Part) : Marked :=
  parts.flatMap fun
    | .text text quoted _ => text.map (·, quoted)
    | .gap => []

/-! ## Fields -/

/-- Fields while a word is split: those that are done, newest first, the one that is being filled,
newest first, and whether a blank has ended the last one. -/
structure Fields where
  done : List Marked := []
  current : Option Marked := none
  afterBlank : Bool := false

namespace Fields

/-- Ends the field that is being filled, if there is one. -/
def close (fields : Fields) (afterBlank : Bool) : Fields :=
  match fields.current with
  | some field => ⟨field.reverse :: fields.done, none, afterBlank⟩
  | none => fields

/-- Fills the current field. -/
def fill (fields : Fields) (text : Text) (quoted : Bool) : Fields :=
  let front := (text.map (·, quoted)).reverse
  { fields with current := some (front ++ fields.current.getD []), afterBlank := false }

/-- Takes a character that may split. A blank ends a field; another separator ends one too, even an
empty one, unless a blank has just done so. -/
def split (separators : Text) (fields : Fields) (c : Char) : Fields :=
  if !separators.contains c then fields.fill [c] false
  else if c = ' ' || c = '\t' || c = '\n' then fields.close true
  else
    match fields.current with
    | some _ => fields.close false
    | none =>
      if fields.afterBlank then { fields with afterBlank := false }
      else { fields with done := [] :: fields.done }

/-- Takes a part of a word. -/
def add (separators : Text) (fields : Fields) : Part → Fields
  | .text text quoted splits =>
    if splits then text.foldl (split separators) fields
    else if text.isEmpty && !quoted then fields
    else fields.fill text quoted
  | .gap => { fields.close false with afterBlank := false }

end Fields

/-- The fields of a word. -/
def fieldsOf (separators : Text) (parts : List Part) : List Marked :=
  ((parts.foldl (Fields.add separators) {}).close false).done.reverse

/-! ## Parameters -/

/-- The output of a script without the ends of lines at its end, and without zeros. -/
def dropFinalNewlines (text : Text) : Text :=
  ((text.filter (· ≠ '\x00')).reverse.dropWhile (· = '\n')).reverse

/-- What a parameter stands for. -/
structure Held where
  /-- Its name in messages. -/
  name : Text
  /-- Its values, which are many if all elements of a list are meant. -/
  values : Option (List Text)
  /-- Whether all elements of a list are meant, and if so, whether they are meant one by one. -/
  list : Option Bool := none
  /-- Gives it a value. -/
  set : Text → Sh Unit

/-- Values as one text. In a word that is split they are kept apart by zeros, if all are meant one
by one or none is quoted; else the first separator joins them. -/
def Held.joined (held : Held) (shell : Shell) (full quoted : Bool) (values : List Text) : Text :=
  let glue : Text :=
    if full && (!quoted || held.list = some true) then ['\x00']
    else
      match shell.value? "IFS".toList with
      | some separators => separators.take 1
      | none => [' ']
  Text.joinWith glue values

/-- The value of a parameter that is no list. -/
def parameterValue (shell : Shell) (name : Text) : Option Text :=
  if name = ['#'] then some (Text.ofNat shell.arguments.length)
  else if name = ['?'] then some (Text.ofNat shell.status)
  else if name = ['$'] then some (Text.ofNat shell.mainProcess)
  else if name = ['!'] then shell.jobs.head?.map fun job => Text.ofNat job.process
  else if name = ['-'] then some shell.options.reverse
  else if name.all Char.isDigit then
    match ofDigits 10 name with
    | 0 => some shell.name
    | n + 1 => shell.arguments[n]?
  else shell.value? name

/-- What a parameter stands for. -/
def heldParameter (shell : Shell) (name : Text) : Held :=
  let arguments := shell.arguments
  let set (value : Text) : Sh Unit := do
    unless isName name do fail (name ++ ": bad variable name".toList)
    assign name value
  if name = ['@'] ∨ name = ['*'] then
    { name, set
      values := if arguments.isEmpty then none else some arguments
      list := some (name = ['@']) }
  else { name, set, values := (parameterValue shell name).map ([·]) }

/-- What an element of a list stands for, or all of them, given the text of its index. -/
def heldElement (name : Text) (all : Option Bool) (index : Sh Text) : Sh Held := do
  let held := ((← get).bound? name).getD {}
  match all with
  | some apart =>
    return {
      name
      values := if held.list.isEmpty then none else some held.list.values
      list := some apart
      set := fun _ => fail (name ++ ": bad array subscript".toList) }
  | none =>
    let index ← index
    return {
      name
      values := (held.list.lookup (← Assignment.numberOf held name index)).map ([·])
      set := Assignment.setElement name index false }

/-- The parts that a value makes. -/
def valueParts (value : Text) (quoted : Bool) : List Part :=
  (Text.splitAt '\x00' value).map (fun text => Part.text text quoted !quoted)
    |>.intersperse .gap

/-- Where a tilde stands for a home directory. -/
inductive Tilde where
  | nowhere
  | atFront
  /-- At the front and behind every colon. -/
  | inAssignment
  deriving DecidableEq, Repr

/-- The home directory of a user. -/
def homeOf (shell : Shell) (user : Text) : Option Text :=
  if user.isEmpty then shell.value? "HOME".toList
  else if user = "root".toList then some "/root".toList
  else none

/-- The parts of a literal in front of which a tilde may stand for a home directory; `isWhole` says
that nothing follows the literal. -/
def tildeParts (shell : Shell) (isWhole : Bool) (splits : Bool) (text : Text) : List Part :=
  match text with
  | '~' :: rest =>
    let user := rest.takeWhile (· ≠ '/')
    let behind := rest.drop user.length
    if behind.isEmpty && !isWhole then [.text text false splits]
    else
      match homeOf shell user with
      | some home => [.text home true false, .text behind false splits]
      | none => [.text text false splits]
  | _ => [.text text false splits]

/-- The parts of a literal. -/
def literalParts (shell : Shell) (tilde : Tilde) (isWhole splits : Bool) (text : Text) :
    List Part :=
  match tilde with
  | .nowhere => [.text text false splits]
  | .atFront => tildeParts shell isWhole splits text
  | .inAssignment =>
    let pieces := Text.splitAt ':' text
    let last := pieces.length - 1
    let parts := pieces.zipIdx.map fun (piece, n) =>
      tildeParts shell (isWhole || n < last) splits piece
    (parts.intersperse [.text [':'] false splits]).flatten

/-- What is wrong with a parameter that must have a value. -/
def missingMessage (name : Text) (orEmpty : Bool) (message : Option Text) : Text :=
  let usual := if orEmpty then "parameter not set or null" else "parameter not set"
  name ++ ": ".toList ++ message.getD usual.toList

namespace Held

/-- Stops because a parameter has no value. -/
def demand {α : Type} (held : Held) (orEmpty : Bool) (message : Option Text) : Sh α :=
  fail (missingMessage held.name orEmpty message)

/-- The values, of which there must be some if the shell asks for that. -/
def present (held : Held) : Sh (Option (List Text)) := do
  if held.values.isNone && held.list.isNone && isSet (← get) 'u' then held.demand false none
  return held.values

/-- The parts that a use of a parameter makes, given what expands its argument. -/
def expand (held : Held) (full quoted hasArgument : Bool) (use : Use)
    (argument : Bool → Bool → Sh (List Part)) : Sh (List Part) := do
  let shell ← get
  let join := held.joined shell full quoted
  let found := held.values.map join
  let isFit (orEmpty : Bool) := found.filter fun value => !(orEmpty && value.isEmpty)
  let make (text : Text) := valueParts text quoted
  match use with
  | .value => return ((← held.present).map fun values => make (join values)).getD []
  | .length =>
    let values := (← held.present).getD []
    let length :=
      if shell.isExtended && held.list.isSome then values.length else (join values).length
    return [.text (Text.ofNat length) quoted !quoted]
  | .otherwise orEmpty =>
    match isFit orEmpty with
    | some value => return make value
    | none => argument full !quoted
  | .assigned orEmpty =>
    match isFit orEmpty with
    | some value => return make value
    | none =>
      let value := joinParts (← argument false false)
      held.set value
      return make value
  | .required orEmpty =>
    match isFit orEmpty with
    | some value => return make value
    | none =>
      let message := joinParts (← argument false false)
      held.demand orEmpty (if hasArgument then some message else none)
  | .instead orEmpty =>
    match isFit orEmpty with
    | some _ => argument full !quoted
    | none => return []
  | .without atStart longest =>
    let values ← held.present
    let pattern := Pattern.ofMarked (markParts (← argument false false))
    let change := if atStart then pattern.dropStart longest else pattern.dropEnd longest
    return (values.map fun values =>
      make (if shell.isExtended then join (values.map change) else change (join values))).getD []
  | .faulty => fail "Bad substitution".toList

end Held

/-- Whether an index means all elements of a list, and if so, whether it means them one by one. -/
def allOf (index : Word) : Option Bool :=
  match index with
  | [.literal ['@'] _] => some true
  | [.literal ['*'] _] => some false
  | _ => none

/-! ## Pieces -/

mutual

/-- The parts that a piece of a word makes, in a word that is `full`y expanded or not. -/
def expandPiece (run : Option Command → Sh Text) (full splitsLiterals : Bool) (tilde : Tilde)
    (isWhole : Bool) : Piece → Sh (List Part)
  | .literal text quoted => do
    if quoted then return [.text text true false]
    return literalParts (← get) tilde isWhole splitsLiterals text
  | .output script quoted => do
    return [.text (dropFinalNewlines (← run script)) quoted !quoted]
  | .arithmetic expression quoted => do
    let parts ← expandPieces run false false .nowhere expression
    let n ← Arithmetic.value (joinParts parts)
    return [.text (Text.ofInt n) quoted !quoted]
  | .parameter name use argument quoted => do
    let held := heldParameter (← get) name
    held.expand full quoted (!argument.isEmpty) use fun full splits =>
      expandPieces run full splits .atFront argument
  | .element name index use argument quoted => do
    let held ← heldElement name (allOf index) do
      return joinParts (← expandPieces run false false .nowhere index)
    held.expand full quoted (!argument.isEmpty) use fun full splits =>
      expandPieces run full splits .atFront argument

/-- The parts that pieces make, one after the other. -/
def expandPieces (run : Option Command → Sh Text) (full splitsLiterals : Bool) (tilde : Tilde) :
    List Piece → Sh (List Part)
  | [] => return []
  | piece :: pieces => do
    let first ← expandPiece run full splitsLiterals tilde pieces.isEmpty piece
    let tilde : Tilde := if tilde = .inAssignment then .inAssignment else .nowhere
    return first ++ (← expandPieces run full splitsLiterals tilde pieces)

end

/-! ## Words -/

/-- The paths of a field if it is a pattern that leads to any, else its text. -/
def pathsOrText (shell : Shell) (field : Marked) : List Text :=
  if isSet shell 'f' || !isPattern field then [textOf field]
  else
    match pathsOf shell.host shell.cwd field with
    | [] => [textOf field]
    | paths => paths

/-- The fields that a word expands to. -/
def expandWord (run : Option Command → Sh Text) (word : Word) : Sh (List Text) := do
  let parts ← expandPieces run true false .atFront word
  let shell ← get
  return (fieldsOf (separators shell) parts).flatMap (pathsOrText shell)

/-- The fields that words expand to. -/
def expandWords (run : Option Command → Sh Text) : List Word → Sh (List Text)
  | [] => return []
  | word :: words => do
    let first ← expandWord run word
    return first ++ (← expandWords run words)

/-- The single text that a word expands to. -/
def expandText (run : Option Command → Sh Text) (tilde : Tilde) (word : Word) : Sh Text := do
  return joinParts (← expandPieces run false false tilde word)

/-- The pattern that a word expands to. -/
def expandPattern (run : Option Command → Sh Text) (word : Word) : Sh Pattern := do
  return Pattern.ofMarked (markParts (← expandPieces run false false .atFront word))

end CheckoutLint.Shell
