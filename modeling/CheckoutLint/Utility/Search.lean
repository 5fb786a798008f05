import CheckoutLint.Regex.Grammar
import CheckoutLint.Utility.Options

/-!
Searching files for lines in which an expression matches. Of such lines, or of the others, the
utility writes the text or the number, or only the names of the files.
-/

namespace CheckoutLint.Utility.Search

/-! ## Lines -/

/-- The expression of a text that stands for itself. -/
def literal (text : Text) : Regex :=
  text.foldl (fun regex c => .both regex (.one (.single c))) .empty

/-- What is looked for, and how it is written. -/
structure Request where
  regex : Regex
  ignoreCase : Bool
  /-- Whether a match must be a whole line. -/
  whole : Bool
  /-- Whether lines without a match are chosen. -/
  inverted : Bool
  counts : Bool
  /-- Whether only the names of files are written. -/
  onlyNames : Bool
  quiet : Bool
  numbers : Bool
  /-- Whether names of files stand in front of lines. -/
  names : Bool

/-- Whether a line is chosen. -/
def Request.chooses (search : Request) (line : Text) : Bool :=
  let manner : Regex.Manner := { ignoreCase := search.ignoreCase }
  let found :=
    if search.whole then
      (search.regex.ends manner { rest := line }).any fun finish => finish.rest.isEmpty
    else (Regex.find? manner search.regex { rest := line }).isSome
  found != search.inverted

/-- What is written of a text, which stands under a name, given the lines that are chosen. -/
def Request.shown (search : Request) (name : Text) (chosen : List (Text × Nat)) : Text :=
  let front : Text := if search.names then name ++ [':'] else []
  if search.onlyNames then (if chosen.isEmpty then [] else name ++ ['\n'])
  else if search.counts then front ++ Text.ofNat chosen.length ++ ['\n']
  else
    chosen.flatMap fun (line, number) =>
      front ++ (if search.numbers then Text.ofNat number ++ [':'] else []) ++ line ++ ['\n']

/-! ## Files -/

/-- How the utility reads its options. -/
def manner : Options.Manner := { flags := "EFchilnqsvxH", valued := "e", status := 2 }

/-- The search that options and a pattern ask for, given how many files there are. -/
def ofOptions (taken : Options.Taken) (pattern : Text) (files : Nat) : Work Request := do
  let extended := taken.has 'E'
  let dialect : Regex.Dialect := { extended, looseGroups := extended, looseCounts := extended }
  let regex ←
    if taken.has 'F' then pure (literal pattern)
    else
      match Regex.Grammar.parse dialect pattern with
      | .ok regex => pure regex
      | .error problem => fail 2 problem.message
  return {
    regex
    ignoreCase := taken.has 'i'
    whole := taken.has 'x'
    inverted := taken.has 'v'
    counts := taken.has 'c'
    onlyNames := taken.has 'l'
    quiet := taken.has 'q'
    numbers := taken.has 'n'
    names := taken.has 'H' || 1 < files && !taken.has 'h' }

/-- Searches files for lines. -/
def grep : Work Unit := do
  inTrouble 2
  let taken ← manner.ofCall
  let (pattern, operands) ←
    match taken.value? 'e', taken.operands with
    | some pattern, operands => pure (pattern, operands)
    | none, pattern :: operands => pure (pattern, operands)
    | none, [] => do
      report "Usage: grep [OPTION]... PATTERNS [FILE]...\n".toList
      report "Try 'grep --help' for more information.\n".toList
      exit 2
  let search ← ofOptions taken pattern operands.length
  let mut hasFound := false
  let mut hasFailed := false
  for path in pathsOr operands do
    let name := if path = ['-'] then "(standard input)".toList else path
    match ← readInput path with
    | .ok text =>
      let chosen := ((linesOf text).zipIdx 1).filter fun (line, _) => search.chooses line
      unless chosen.isEmpty do hasFound := true
      if search.quiet && hasFound then exit 0
      unless search.quiet do put (search.shown name chosen)
    | .error cause =>
      unless taken.has 's' do warn (name ++ ": ".toList ++ cause.reason)
      hasFailed := true
  mark (if hasFailed then 2 else if hasFound then 0 else 1)

end CheckoutLint.Utility.Search
