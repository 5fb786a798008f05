import CheckoutLint.Regex.Basic

/-!
How regular expressions are written. There are two forms: in the basic one, signs for groups, counts
and alternatives stand behind backslashes; in the extended one they do without, and backslashes take
their meaning away.
-/

namespace CheckoutLint.Regex

/-- What can be wrong with a regular expression as it is written. -/
inductive Problem where
  | incomplete
  | openBracket
  | openGroup
  | closedGroup
  | openCount
  | badCount
  | badRange
  | badRepeat
  | badReference
  | badClass
  | badElement
  | lastBackslash
  | tooBig
  deriving DecidableEq, Repr

/-- What is wrong, in words. -/
def Problem.message : Problem → Text
  | .incomplete => "Invalid regular expression".toList
  | .openBracket => "Unmatched [, [^, [:, [., or [=".toList
  | .openGroup => "Unmatched ( or \\(".toList
  | .closedGroup => "Unmatched ) or \\)".toList
  | .openCount => "Unmatched \\\x7b".toList
  | .badCount => "Invalid content of \\\x7b\\\x7d".toList
  | .badRange => "Invalid range end".toList
  | .badRepeat => "Invalid preceding regular expression".toList
  | .badReference => "Invalid back reference".toList
  | .badClass => "Invalid character class name".toList
  | .badElement => "Invalid collation character".toList
  | .lastBackslash => "Trailing backslash".toList
  | .tooBig => "Regular expression too big".toList

/-- A form in which expressions are written. -/
structure Dialect where
  extended : Bool := false
  /-- Whether it is wrong to repeat nothing. -/
  strict : Bool := false
  /-- Whether a closing parenthesis may stand for itself. -/
  looseGroups : Bool := false
  /-- Whether a count that is none stands for itself. -/
  looseCounts : Bool := false
  /-- Whether letters behind backslashes stand for controls. -/
  controls : Bool := false
  /-- Whether a range may be empty. -/
  emptyRanges : Bool := false
  deriving DecidableEq, Repr

namespace Grammar

/-! ## Sets -/

/-- The ranges of the characters of a class. -/
def classRanges (name : Text) : Option (List (Char × Char)) :=
  match String.ofList name with
  | "alpha" => some [('A', 'Z'), ('a', 'z')]
  | "digit" => some [('0', '9')]
  | "alnum" => some [('0', '9'), ('A', 'Z'), ('a', 'z')]
  | "upper" => some [('A', 'Z')]
  | "lower" => some [('a', 'z')]
  | "space" => some [('\t', '\r'), (' ', ' ')]
  | "blank" => some [('\t', '\t'), (' ', ' ')]
  | "punct" => some [('!', '/'), (':', '@'), ('[', '\x60'), ('\x7b', '~')]
  | "print" => some [(' ', '~')]
  | "graph" => some [('!', '~')]
  | "cntrl" => some [('\x00', '\x1f'), ('\x7f', '\x7f')]
  | "xdigit" => some [('0', '9'), ('A', 'F'), ('a', 'f')]
  | _ => none

/-- The characters of words. -/
def wordRanges : List (Char × Char) := [('0', '9'), ('A', 'Z'), ('_', '_'), ('a', 'z')]

/-- The blanks. -/
def blankRanges : List (Char × Char) := [('\t', '\r'), (' ', ' ')]

/-- A part of a set: a character, which may begin or end a range, or a class. -/
inductive Element where
  | character (c : Char)
  | ranges (ranges : List (Char × Char))

/-- The text up to a sign and a bracket, and what follows these. -/
def upTo? (sign : Char) : Text → Option (Text × Text)
  | c :: d :: rest =>
    if c = sign && d = ']' then some ([], rest)
    else (upTo? sign (d :: rest)).map fun (name, rest) => (c :: name, rest)
  | _ => none

/-- The next part of a set, and what follows. -/
def element (text : Text) : Except Problem (Element × Text) :=
  match text with
  | [] => .error .openBracket
  | '[' :: sign :: rest =>
    if sign = ':' || sign = '=' || sign = '.' then
      match upTo? sign rest with
      | none => .error .openBracket
      | some (name, rest) =>
        if sign = ':' then
          match classRanges name with
          | some ranges => .ok (.ranges ranges, rest)
          | none => .error .badClass
        else
          match name with
          | [c] =>
            .ok (if sign = '=' then .ranges [(c, c)] else .character c, rest)
          | _ => .error .badElement
    else .ok (.character '[', sign :: rest)
  | c :: rest => .ok (.character c, rest)

/-- The ranges of a set up to its end, and what follows. Takes at most `fuel` steps. -/
def setFrom (emptyRanges : Bool) (fuel : Nat) (isFirst : Bool) (ranges : List (Char × Char))
    (text : Text) : Except Problem (List (Char × Char) × Text) :=
  match fuel, text with
  | 0, _ | _, [] => .error .openBracket
  | fuel + 1, c :: rest =>
    if c = ']' && !isFirst then .ok (ranges, rest)
    else if c = '-' && !isFirst && rest.head?.any (· ≠ ']') then .error .badRange
    else do
      let (first, rest) ← element (c :: rest)
      match rest with
      | '-' :: d :: behind =>
        if d = ']' then
          match first with
          | .character c => setFrom emptyRanges fuel false ((c, c) :: ranges) rest
          | .ranges more => setFrom emptyRanges fuel false (more ++ ranges) rest
        else
          let (last, rest) ← element (d :: behind)
          match first, last with
          | .character low, .character high =>
            if low ≤ high then setFrom emptyRanges fuel false ((low, high) :: ranges) rest
            else if emptyRanges then setFrom emptyRanges fuel false ranges rest
            else .error .badRange
          | _, _ => .error .badRange
      | _ =>
        match first with
        | .character c => setFrom emptyRanges fuel false ((c, c) :: ranges) rest
        | .ranges more => setFrom emptyRanges fuel false (more ++ ranges) rest

/-- The set behind an opening bracket, and what follows. -/
def set (emptyRanges : Bool) (text : Text) : Except Problem (CharSet × Text) := do
  let (negated, rest) :=
    match text with
    | '^' :: rest => (true, rest)
    | rest => (false, rest)
  if rest.isEmpty then throw .incomplete
  let (ranges, rest) ← setFrom emptyRanges (rest.length + 1) true [] rest
  return (⟨negated, ranges⟩, rest)

/-! ## Signs -/

/-- What an expression is made of. -/
inductive Token where
  | finish
  | character (c : Char)
  | set (set : CharSet)
  | bracket
  | star
  | plus
  | query
  | openCount
  | closeCount
  | openGroup
  | closeGroup
  | bar
  | edge (place : Edge)
  | again (number : Nat)
  | lastBackslash
  deriving DecidableEq, Repr

/-- What a letter behind a backslash stands for in either form. -/
def escaped (dialect : Dialect) (c : Char) : Token :=
  match c with
  | 'w' => .set { ranges := wordRanges }
  | 'W' => .set ⟨true, wordRanges⟩
  | 's' => .set { ranges := blankRanges }
  | 'S' => .set ⟨true, blankRanges⟩
  | 'b' => .edge .wordEdge
  | 'B' => .edge .noWordEdge
  | '<' => .edge .wordStart
  | '>' => .edge .wordEnd
  | '\x60' => .edge .textStart
  | '\'' => .edge .textEnd
  | c =>
    let control : Option Char :=
      if dialect.controls then
        [('n', '\n'), ('t', '\t'), ('f', '\x0c'), ('v', '\x0b'), ('a', '\x07'),
          ('r', '\r')].lookup c
      else none
    match control with
    | some c => .character c
    | none =>
      if '1' ≤ c && c ≤ '9' then .again (c.toNat - '0'.toNat) else .character c

/-- What a sign stands for that has a meaning of its own in the extended form, and behind a
backslash in the basic one. -/
def sign? : Char → Option Token
  | '+' => some .plus
  | '?' => some .query
  | '\x7b' => some .openCount
  | '\x7d' => some .closeCount
  | '(' => some .openGroup
  | ')' => some .closeGroup
  | '|' => some .bar
  | _ => none

/-- Whether a dollar sign with this behind it asks for the end of a line in the basic form. -/
def endsPart : Text → Bool
  | [] | '\\' :: ')' :: _ | '\\' :: '|' :: _ => true
  | _ => false

/-- The first token of a text, and what follows. `mayStart` says whether a caret there asks for the
start of a line in the basic form. -/
def token (dialect : Dialect) (mayStart : Bool) (text : Text) : Token × Text :=
  match text with
  | [] => (.finish, [])
  | ['\\'] => (.lastBackslash, [])
  | '\\' :: c :: rest =>
    match if dialect.extended then none else sign? c with
    | some sign => (sign, rest)
    | none => (escaped dialect c, rest)
  | c :: rest =>
    match if dialect.extended then sign? c else none with
    | some sign => (sign, rest)
    | none =>
      match c with
      | '*' => (.star, rest)
      | '.' => (.set .all, rest)
      | '[' => (.bracket, rest)
      | '^' => (if dialect.extended || mayStart then .edge .lineStart else .character c, rest)
      | '$' =>
        (if dialect.extended || endsPart rest then .edge .lineEnd else .character c, rest)
      | c => (.character c, rest)

/-! ## Counts -/

/-- A number in a count: nothing, or a number unless something else stands there; with what follows,
from the comma or the end of the count on. -/
def countNumber (dialect : Dialect) (fuel : Nat) (number : Option (Option Nat)) (text : Text) :
    Option (Option Nat) × Token × Text :=
  match fuel with
  | 0 => (none, .finish, [])
  | fuel + 1 =>
    match token dialect false text with
    | (.finish, rest) => (none, .finish, rest)
    | (.closeCount, rest) => (number, .closeCount, rest)
    | (.character ',', rest) => (number, .character ',', rest)
    | (.character c, rest) =>
      let next : Option (Option Nat) :=
        match number with
        | some n =>
          if c.isDigit then some (some (min 32768 (10 * n.getD 0 + (c.toNat - '0'.toNat))))
          else none
        | none => none
      countNumber dialect fuel next rest
    | (_, rest) => countNumber dialect fuel none rest

/-- The most that a count may be. -/
def maxCount : Nat := 32767

/-- The count behind its opening sign, and what follows; nothing if it stands for itself. -/
def count (dialect : Dialect) (text : Text) :
    Except Problem (Option (Nat × Option Nat × Text)) := do
  let (start, sign, rest) := countNumber dialect (text.length + 1) (some none) text
  let isComma := sign = .character ','
  let start ←
    match start with
    | some none => if isComma then pure (some 0) else throw .badCount
    | some (some n) => pure (some n)
    | none => pure none
  let (finish, sign, rest) :=
    if start.isSome && isComma then countNumber dialect (rest.length + 1) (some none) rest
    else (if start.isSome && sign = .closeCount then some start else none, sign, rest)
  match start, finish with
  | some least, some most =>
    if most.any fun most => most < least then throw .badCount
    if sign != .closeCount then throw .badCount
    if maxCount < most.getD least then throw .tooBig
    return some (least, most, rest)
  | _, _ =>
    if dialect.looseCounts then return none
    throw (if sign = .finish then .openCount else .badCount)

/-! ## Expressions -/

/-- What has been read: what is left, how many groups have begun, which ones have ended, and whether
the next sign stands for itself. -/
structure Progress where
  rest : Text
  groups : Nat := 0
  closed : List Nat := []
  isPlain : Bool := false

/-- Reading of an expression. -/
abbrev Reading := StateT Progress (Except Problem)

/-- The next token, which is not taken. -/
def peek (dialect : Dialect) (mayStart : Bool) : Reading (Token × Text) := do
  let progress ← get
  match progress.isPlain, progress.rest with
  | true, c :: rest => return (.character c, rest)
  | _, rest => return token dialect mayStart rest

/-- Goes on behind what has been taken. -/
def moveTo (rest : Text) : Reading Unit :=
  modify fun progress => { progress with rest, isPlain := false }

/-- Whether a token repeats what is before it. -/
def repeats : Token → Bool
  | .star | .plus | .query | .openCount => true
  | _ => false

/-- An expression with the repetitions that follow it. -/
def repeated (dialect : Dialect) (fuel : Nat) (inner : Regex) : Reading Regex :=
  match fuel with
  | 0 => return inner
  | fuel + 1 => do
    let (next, rest) ← peek dialect false
    let outer? : Option (Regex × Text) ←
      match next with
      | .star => pure (some (.repeated 0 none inner, rest))
      | .plus => pure (some (.repeated 1 none inner, rest))
      | .query => pure (some (.repeated 0 (some 1) inner, rest))
      | .openCount =>
        match ← count dialect rest with
        | some (least, most, rest) => pure (some (.repeated least most inner, rest))
        | none =>
          modify fun progress => { progress with isPlain := true }
          pure none
      | _ => pure none
    match outer? with
    | none => return inner
    | some (outer, rest) =>
      moveTo rest
      let (next, _) ← peek dialect false
      if dialect.strict && !dialect.extended && (next = .star || next = .openCount) then
        throw .badRepeat
      repeated dialect fuel outer

/-- The text of a sign that stands for itself. -/
def plainSign : Token → Char
  | .star => '*'
  | .plus => '+'
  | .query => '?'
  | .openCount => '\x7b'
  | .closeCount => '\x7d'
  | _ => ')'

/-- The parts of an expression up to the next alternative, given how to read what is in a group.
Takes at most `fuel` steps. -/
def branch (dialect : Dialect) (inGroup : Bool) (group : Reading Regex) (fuel : Nat)
    (mayStart : Bool) (before : Regex) : Reading Regex :=
  match fuel with
  | 0 => return before
  | fuel + 1 => do
    let (next, rest) ← peek dialect mayStart
    let goOn (part : Regex) : Reading Regex := do
      let part ← repeated dialect fuel part
      branch dialect inGroup group fuel false (if before = .empty then part else .both before part)
    match next with
    | .finish | .bar => return before
    | .closeGroup =>
      if inGroup then return before
      unless dialect.looseGroups do throw .closedGroup
      moveTo rest
      goOn (.one (.single ')'))
    | .lastBackslash => throw .lastBackslash
    | .edge place =>
      moveTo rest
      branch dialect inGroup group fuel true (.both before (.edge place))
    | .character c =>
      moveTo rest
      goOn (.one (.single c))
    | .set set =>
      moveTo rest
      goOn (.one set)
    | .bracket =>
      let (set, rest) ← set dialect.emptyRanges rest
      moveTo rest
      goOn (.one set)
    | .again number =>
      unless (← get).closed.contains number do throw .badReference
      moveTo rest
      goOn (.again number)
    | .openGroup =>
      moveTo rest
      modify fun progress => { progress with groups := progress.groups + 1 }
      let number := (← get).groups
      let inner ← group
      let (next, rest) ← peek dialect false
      unless next = .closeGroup do throw .openGroup
      moveTo rest
      modify fun progress => { progress with closed := number :: progress.closed }
      goOn (.group number inner)
    | sign =>
      if repeats sign then
        if dialect.strict && (dialect.extended || sign = .openCount) then throw .badRepeat
        if dialect.extended then
          moveTo rest
          branch dialect inGroup group fuel mayStart before
        else
          moveTo rest
          goOn (.one (.single (plainSign sign)))
      else
        moveTo rest
        goOn (.one (.single (plainSign sign)))

/-- Alternatives, given how to read one. -/
def alternatives (dialect : Dialect) (one : Reading Regex) (fuel : Nat) : Reading Regex :=
  match fuel with
  | 0 => one
  | fuel + 1 => do
    let first ← one
    let (next, rest) ← peek dialect false
    if next = .bar then
      moveTo rest
      return .either first (← alternatives dialect one fuel)
    return first

/-- A whole expression. Groups are nested no deeper than the fuel. -/
def expression (dialect : Dialect) (length : Nat) (inGroup : Bool) (fuel : Nat) : Reading Regex :=
  match fuel with
  | 0 => throw .tooBig
  | fuel + 1 =>
    let one := branch dialect inGroup (expression dialect length true fuel) length true .empty
    alternatives dialect one length

/-- Reads an expression. -/
def parse (dialect : Dialect) (text : Text) : Except Problem Regex :=
  (expression dialect (text.length + 1) false (text.length + 1)).run' { rest := text }

end Grammar

end CheckoutLint.Regex
