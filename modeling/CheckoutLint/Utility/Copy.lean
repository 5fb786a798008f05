import CheckoutLint.Utility.Quantity

/-!
Utilities that copy their input, to one output or to several, or that write a line without end.
-/

namespace CheckoutLint.Utility.Copy

/-- Whether a path leads to the file to which the output goes, with something still to read. -/
def isOutput (path : Text) : Work Bool := do
  let task ← get
  let opened (stream : Nat) : Option (Place × Nat) :=
    match (task.call.streams.lookup stream).bind task.host.open? with
    | some (.regular place _ _ _ offset _) => some (place, offset)
    | _ => none
  let input :=
    if path = ['-'] then opened 0
    else (task.host.find true task.call.cwd path).toOption.map fun found => (found.1, 0)
  match input, opened 1 with
  | some (place, offset), some (other, _) =>
    match task.host.disk.at? other with
    | some (.file bytes _) => return place == other && offset < bytes.length
    | _ => return false
  | _, _ => return false

/-- An octet in a visible form. -/
def visible (c : Char) : Text :=
  let low (c : Char) : Text :=
    if c < ' ' then ['^', Char.ofNat (c.toNat + 64)] else if c = '\x7f' then "^?".toList else [c]
  if c.toNat < 128 then low c else "M-".toList ++ low (Char.ofNat (c.toNat - 128))

/-- How characters and lines are shown. -/
structure Display where
  ends : Bool
  tabs : Bool
  others : Bool
  numbers : Bool
  /-- Whether empty lines have no numbers. -/
  passesEmpty : Bool
  squeezes : Bool

/-- A line as it is shown, behind its number if it has one. -/
def Display.line (display : Display) (number : Option Nat) (text : Text) (isEnded : Bool) : Text :=
  let shown := text.flatMap fun c =>
    if c = '\t' then (if display.tabs then "^I".toList else [c])
    else if display.others then visible c
    else [c]
  let front := (number.map fun n => Quantity.padded 6 n ++ ['\t']).getD []
  front ++ shown ++ if isEnded then (if display.ends then "$\n".toList else ['\n']) else []

/-- Lines as they are shown, given the number of the first one and whether an empty line is before
it. What follows the last end of a line is one too unless it is empty. -/
def Display.lines (display : Display) (number : Nat) (afterEmpty : Bool) : List Text → Text
  | [] => []
  | [last] =>
    if last.isEmpty then []
    else display.line (if display.numbers then some number else none) last false
  | text :: rest =>
    if display.squeezes && afterEmpty && text.isEmpty then display.lines number true rest
    else
      let hasNumber := display.numbers && !(display.passesEmpty && text.isEmpty)
      display.line (if hasNumber then some number else none) text true ++
        display.lines (if hasNumber then number + 1 else number) text.isEmpty rest

/-- Concatenates files. -/
def cat : Work Unit := do
  let manner : Options.Manner := { flags := "AbeEnstTuv" }
  let taken ← manner.ofCall
  let given (letters : String) : Bool := letters.toList.any taken.has
  let display : Display :=
    ⟨given "AeE", given "AtT", given "Aevt", given "bn", given "b", given "s"⟩
  let call := (← get).call
  if call.streams.lookup 1 = none then
    fail 1 ("standard output: ".toList ++ SystemError.badStream.reason)
  let mut held : List Text := []
  for path in pathsOr taken.operands do
    if ← isOutput path then
      warn (Shown.name path ++ ": input file is output file".toList)
      mark 1
    else
      match ← readInput path with
      | .error cause => warnOf path cause
      | .ok text =>
        if given "AbeEnstTv" then held := text :: held
        else
          unless text.isEmpty do
            if let some cause ← send 1 text then
              fail 1 ("write error: ".toList ++ cause.reason)
  put (display.lines 1 false (Text.splitAt '\n' held.reverse.flatten))
  if (pathsOr taken.operands).contains ['-'] && (call.streams.lookup 0).isNone then
    fail 1 ("closing standard input: ".toList ++ SystemError.badStream.reason)

/-- Copies the input to the output and to files. -/
def tee : Work Unit := do
  let manner : Options.Manner := { flags := "a" }
  let taken ← manner.ofCall
  let call := (← get).call
  let access : Host.Access :=
    { canWrite := true, create := true, empty := !taken.has 'a', atEnd := taken.has 'a' }
  let mut outputs : List Nat := []
  for path in taken.operands do
    match ← onHost fun host => host.openFor [] call.cwd path access with
    | .ok number => outputs := number :: outputs
    | .error cause => warnOf path cause
  match ← readInput ['-'] with
  | .error cause =>
    warn ("read error: ".toList ++ cause.reason)
    mark 1
  | .ok text =>
    for number in outputs.reverse do
      let _ ← onHost fun host => host.write number text
    put text

/-- How many blocks are written that never end. -/
def maxBlocks : Nat := 1000000

/-- Writes a block again and again. -/
def repeatBlock (block : Text) (fuel : Nat) : Work Unit :=
  match fuel with
  | 0 => return
  | fuel + 1 => do
    if let some cause ← send 1 block then
      fail 1 ("standard output: ".toList ++ cause.reason)
    repeatBlock block fuel

/-- Writes a line again and again. -/
def yes : Work Unit := do
  let arguments := (← get).call.arguments
  let line :=
    if arguments.isEmpty then "y\n".toList else Text.joinWith [' '] arguments ++ ['\n']
  let count := max 1 (8192 / line.length)
  repeatBlock (List.replicate count line).flatten maxBlocks

end CheckoutLint.Utility.Copy
