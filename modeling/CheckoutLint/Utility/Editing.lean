import CheckoutLint.Editor.Grammar
import CheckoutLint.Utility.Options

/-!
The stream editor: it reads lines, does the commands of a script for each, and writes what has
become of them.
-/

namespace CheckoutLint.Utility.Editing

open Editor (Action Address Instruction)

/-- A line, whether it has an end, its number, and whether it is the last one. -/
structure Line where
  text : Text
  isEnded : Bool
  number : Nat
  isLast : Bool

/-- The lines of a text, given the number of the first one. -/
def linesOf (text : Text) : List Line :=
  let pieces := Text.splitAt '\n' text
  let isOpen := pieces.getLast? != some []
  let pieces := if isOpen then pieces else pieces.dropLast
  pieces.zipIdx.map fun (text, n) =>
    let isLast := n + 1 = pieces.length
    ⟨text, !(isLast && isOpen), n + 1, isLast⟩

/-- Whether a line is at an address, given what has become of it. -/
def isAt (line : Line) (space : Text) : Address → Bool
  | .line number => line.number = number
  | .last => line.isLast
  | .found sought => (sought.find? { rest := space }).isSome

/-- Whether a command is for a line, and whether its range goes on behind it, given whether it has
begun. -/
def select (command : Instruction) (isOpen : Bool) (line : Line) (space : Text) : Bool × Bool :=
  let stands (address : Address) : Bool := isAt line space address
  let (isIn, goesOn) :=
    match command.selection.first, command.selection.finish with
    | none, _ => (true, false)
    | some first, none => (stands first, false)
    | some first, some finish =>
      let isOver :=
        match finish with
        | .line number => decide (number ≤ line.number)
        | finish => isOpen && stands finish
      let isIn := isOpen || stands first
      (isIn, isIn && !isOver)
  (isIn != command.selection.inverted, goesOn)

/-- What the commands make of a line: what is written before it, what is left of it if it goes on,
whether the work ends there, and the state of the ranges. -/
structure Outcome where
  written : Text := []
  space : Option Text
  isDone : Bool := false
  ranges : List Bool := []

/-- Does commands, each with the state of its range. -/
def perform (line : Line) (space : Text) : List (Instruction × Bool) → Outcome
  | [] => { space := some space }
  | (command, isOpen) :: rest =>
    let (isIn, isOpen) := select command isOpen line space
    let ended := if line.isEnded then space ++ ['\n'] else space
    let others := rest.map (·.2)
    let goOn (written space : Text) : Outcome :=
      let outcome := perform line space rest
      { outcome with written := written ++ outcome.written, ranges := isOpen :: outcome.ranges }
    if isIn then
      match command.action with
      | .print => goOn ended space
      | .number => goOn (Text.ofNat line.number ++ ['\n']) space
      | .delete => { space := none, ranges := isOpen :: others }
      | .quit => { space := some space, isDone := true, ranges := isOpen :: others }
      | .substitute substitution =>
        let (changed, isChanged) := substitution.apply space
        let ended := if line.isEnded then changed ++ ['\n'] else changed
        goOn (if isChanged && substitution.prints then ended else []) changed
    else goOn [] space

/-- Does a script for lines, given the state of its ranges. -/
def edit (isSilent : Bool) (script : List Instruction) : List Bool → List Line → Work Unit
  | _, [] => return
  | ranges, line :: lines => do
    let outcome := perform line line.text (script.zip ranges)
    put outcome.written
    if let some space := outcome.space then
      unless isSilent do put (if line.isEnded then space ++ ['\n'] else space)
    unless outcome.isDone do edit isSilent script outcome.ranges lines

/-- How the utility reads its options. -/
def manner : Options.Manner :=
  { flags := "nEr", valued := "e" }

/-- Edits lines by a script. -/
def sed : Work Unit := do
  let taken ← manner.ofCall
  let given := (taken.options.filter fun option => option.1 = 'e').map (·.2)
  let (texts, operands) ←
    match given, taken.operands with
    | [], text :: operands => pure ([text], operands)
    | [], [] => fail 1 "no script specified".toList
    | texts, operands => pure (texts, operands)
  let isExtended := taken.has 'E' || taken.has 'r'
  let parts ← texts.zipIdx.mapM fun (text, n) => do
    match Editor.Grammar.script isExtended text with
    | .ok part => pure part
    | .error problem =>
      fail 1 ("-e expression #".toList ++ Text.ofNat (n + 1) ++ ", char ".toList ++
        Text.ofNat problem.position ++ ": ".toList ++ problem.message)
  let script := parts.flatten
  let mut text : Text := []
  for path in pathsOr operands do
    match ← readInput path with
    | .ok more => text := text ++ more
    | .error cause =>
      warn ("can't read ".toList ++ path ++ ": ".toList ++ cause.reason)
      mark 2
  needEnd
  edit (taken.has 'n') script (script.map fun _ => false) (linesOf text)

end CheckoutLint.Utility.Editing
