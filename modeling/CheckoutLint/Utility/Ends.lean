import CheckoutLint.Utility.Quantity

/-!
Utilities that write the first or the last part of files, counted in lines or in octets.
-/

namespace CheckoutLint.Utility.Ends

/-! ## Parts of texts -/

/-- How many octets the first lines of a text take, counted on from a length, and how many of these
lines are missing. -/
def measure (length : Nat) : (count : Nat) → Text → Nat × Nat
  | 0, _ => (length, 0)
  | count + 1, [] => (length, count + 1)
  | count + 1, c :: text => measure (length + 1) (if c = '\n' then count else count + 1) text
termination_by count text => (text.length, count)

/-- The first lines of a text, their ends included. -/
def firstLines (count : Nat) (text : Text) : Text := text.take (measure 0 count text).1

/-- The text behind its first lines. -/
def behindLines (count : Nat) (text : Text) : Text := text.drop (measure 0 count text).1

/-- How many lines a text has; what follows the last end is one too. -/
def lineCount (text : Text) : Nat :=
  text.count '\n' + if text.getLast?.all (· = '\n') then 0 else 1

/-! ## Options -/

/-- What is written of each file. -/
structure Wanted where
  count : Nat := 10
  inOctets : Bool := false
  /-- Whether the count is that of what is left out. -/
  isRest : Bool := false

/-- The heading of a file, behind a blank line unless it is the first one. -/
def heading (isFirst : Bool) (path : Text) : Text :=
  let name := if path = ['-'] then "standard input".toList else path
  (if isFirst then [] else ['\n']) ++ "==> ".toList ++ name ++ " <==\n".toList

/-- Writes what is wanted of each file, below headings if there are several. -/
def writeEach (paths : List Text) (write : (path : Text) → (heading : Work Unit) → Work Unit) :
    Work Unit := do
  let paths := pathsOr paths
  let mut isFirst := true
  for path in paths do
    let call := (← get).call
    let opens ←
      if path = ['-'] then pure (.ok 0)
      else onHost fun host => host.openFor call.streams call.cwd path { canRead := true }
    match opens with
    | .error cause =>
      warn ("cannot open ".toList ++ Shown.always path ++ " for reading: ".toList ++ cause.reason)
      mark 1
    | .ok _ =>
      write path (if 1 < paths.length then put (heading isFirst path) else pure ())
      isFirst := false

/-- Says that a file cannot be read. -/
def warnReading (path : Text) (cause : SystemError) : Work Unit := do
  let name := if path = ['-'] then "standard input".toList else path
  warn ("error reading ".toList ++ Shown.always name ++ ": ".toList ++ cause.reason)
  mark 1

/-- What options ask for, behind a sign that says that so much is left out. -/
def wantedOf (sign : Char) (taken : Options.Taken) : Work Wanted := do
  match taken.options.getLast? with
  | none => return {}
  | some (letter, text) =>
    let isRest := text.head? = some sign
    let digits := if text.head?.any fun c => c = '-' || c = '+' then text.tail else text
    let what := if letter = 'c' then "number of bytes" else "number of lines"
    return ⟨← Quantity.require what digits, letter = 'c', isRest⟩

/-- An argument such as `-5` as one of today. -/
def modern : List Text → List Text
  | ('-' :: c :: digits) :: rest =>
    if (c :: digits).all Char.isDigit then "-n".toList :: (c :: digits) :: rest
    else ('-' :: c :: digits) :: rest
  | arguments => arguments

/-! ## First parts -/

/-- Reads the front of the input: as many octets as a measure says of what there is, which also
says whether it misses any. What cannot be given back is read in blocks. -/
def readFront (number : Nat) (inBlocks : Bool) (measure : Text → Nat × Bool) :
    Work (Except SystemError Text) :=
  onHost fun host =>
    match host.available number with
    | (.error cause, host) => (.error cause, host)
    | (.ok text, host) =>
      let (length, misses) := measure text
      let isRegular := host.open? number matches some (.regular _ _ _ _ _ _)
      let taken :=
        if inBlocks && !isRegular then max 1 ((length + 8191) / 8192) * 8192 else length
      (.ok (text.take length), host.advance number (min taken text.length) (text.drop taken) misses)

/-- The first part of a file. -/
def frontOf (wanted : Wanted) (path : Text) : Work (Except SystemError Text) := do
  if wanted.isRest then
    let text ← readInput path
    needEnd
    return text.map fun text =>
      if wanted.inOctets then text.take (text.length - wanted.count)
      else firstLines (lineCount text - wanted.count) text
  let call := (← get).call
  let number ←
    if path = ['-'] then pure ((call.streams.lookup 0).elim (.error .badStream) .ok)
    else onHost fun host => host.openFor call.streams call.cwd path { canRead := true }
  match number with
  | .error cause => return .error cause
  | .ok number =>
    readFront number (!wanted.inOctets) fun text =>
      if wanted.inOctets then
        let length := (text.take wanted.count).length
        (length, length < wanted.count)
      else
        let (length, missing) := measure 0 wanted.count text
        (length, 0 < missing)

/-- Writes the first part of files. -/
def head : Work Unit := do
  let manner : Options.Manner := { valued := "cn" }
  let taken ← manner.take (modern (← get).call.arguments)
  let wanted ← wantedOf '-' taken
  writeEach taken.operands fun path heading => do
    heading
    match ← frontOf wanted path with
    | .ok text => put text
    | .error cause => warnReading path cause

/-! ## Last parts -/

/-- The last part of a text. -/
def lastPart (wanted : Wanted) (text : Text) : Text :=
  match wanted.inOctets, wanted.isRest with
  | true, true => text.drop (wanted.count - 1)
  | true, false => text.drop (text.length - wanted.count)
  | false, true => behindLines (wanted.count - 1) text
  | false, false => behindLines (lineCount text - wanted.count) text

/-- Writes the last part of files. -/
def tail : Work Unit := do
  let manner : Options.Manner := { valued := "cn" }
  let taken ← manner.take (modern (← get).call.arguments)
  let wanted ← wantedOf '+' taken
  writeEach taken.operands fun path heading => do
    let result ← readInput path
    unless wanted.isRest do needEnd
    heading
    match result with
    | .ok text => put (lastPart wanted text)
    | .error cause => warnReading path cause

end CheckoutLint.Utility.Ends
