import CheckoutLint.Utility.Quantity

/-!
The utility that counts the lines, words and octets of files.
-/

namespace CheckoutLint.Utility.Count

/-- What has been counted. -/
structure Tally where
  lines : Nat := 0
  words : Nat := 0
  octets : Nat := 0
  deriving DecidableEq, Repr

/-- Two tallies as one. -/
def Tally.add (a b : Tally) : Tally :=
  ⟨a.lines + b.lines, a.words + b.words, a.octets + b.octets⟩

/-- Whether a character stands between words. -/
def isGap (c : Char) : Bool := c = ' ' || '\t' ≤ c && c ≤ '\r'

/-- The tally of a text. A word begins behind a gap with a character that can be printed. -/
def tally (text : Text) : Tally :=
  let step (found : Nat × Bool) (c : Char) : Nat × Bool :=
    if isGap c then (found.1, false)
    else if Shown.isPrintable c && !found.2 then (found.1 + 1, true)
    else found
  ⟨text.count '\n', (text.foldl step (0, false)).1, text.length⟩

/-- What is counted. -/
structure Wanted where
  lines : Bool
  words : Bool
  octets : Bool

/-- The numbers that are wanted of a tally. -/
def Wanted.numbers (wanted : Wanted) (tally : Tally) : List Nat :=
  (if wanted.lines then [tally.lines] else []) ++ (if wanted.words then [tally.words] else []) ++
    if wanted.octets then [tally.octets] else []

/-- A line with numbers and a name. -/
def shown (wanted : Wanted) (width : Nat) (tally : Tally) (name : Option Text) : Text :=
  let numbers := (wanted.numbers tally).map (Quantity.padded width)
  Text.joinWith [' '] (numbers ++ name.toList)

/-- How wide numbers are written: as the sum of the sizes of the files, but wider if not all sizes
are known beforehand. -/
def widthFor (sizes : List (Option (Option Nat))) : Nat :=
  match sizes with
  | [] | none :: _ => 1
  | _ =>
    let known := sizes.filterMap id
    let total := known.foldl (fun total size => total + size.getD 0) 0
    let least := if known.any Option.isNone then 7 else 1
    max least (Text.ofNat total).length

/-- The size of what a path leads to: none if there is nothing, and unknown if it is no file. -/
def sizeOf (path : Text) : Work (Option (Option Nat)) := do
  let task ← get
  let ofPlace (place : Place) : Option (Option Nat) :=
    match task.host.disk.at? place with
    | some (.file bytes _) => some (some bytes.length)
    | some _ => some none
    | none => none
  if path = ['-'] then
    match (task.call.streams.lookup 0).bind task.host.open? with
    | some (.regular place _ _ _ _ _) => return ofPlace place
    | some _ => return some none
    | none => return none
  else
    match task.host.find true task.call.cwd path with
    | .ok (place, _) => return ofPlace place
    | .error _ => return none

/-- Counts lines, words and octets. -/
def wc : Work Unit := do
  let manner : Options.Manner := { flags := "clw" }
  let taken ← manner.ofCall
  let any := !taken.options.isEmpty
  let wanted : Wanted :=
    ⟨taken.has 'l' || !any, taken.has 'w' || !any, taken.has 'c' || !any⟩
  let paths := pathsOr taken.operands
  let isSingle := paths.length = 1 && (wanted.numbers {}).length = 1
  let sizes ← if isSingle then pure [] else paths.mapM sizeOf
  let width := widthFor sizes
  let mut total : Tally := {}
  for path in paths do
    let name := if taken.operands.isEmpty then none else some path
    let result ← readInput path
    needEnd
    match result with
    | .ok text =>
      let counted := tally text
      total := total.add counted
      putLine (shown wanted width counted name)
    | .error cause =>
      warnOf path cause
      if cause = .isDirectory then putLine (shown wanted width {} name)
  if 1 < paths.length then putLine (shown wanted width total (some "total".toList))

end CheckoutLint.Utility.Count
