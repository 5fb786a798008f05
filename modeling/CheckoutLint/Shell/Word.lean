import CheckoutLint.Conversion.Escape
import CheckoutLint.Shell.Reader

/-!
Reading words. A word ends at a blank or an operator that is not quoted; what stands in quotes, in
braces or in double parentheses is read to the end of that. The reader of scripts in parentheses is
a parameter here. No loop takes more steps than its fuel.
-/

namespace CheckoutLint.Shell

/-- What surrounds the pieces that are read, and so where they end. -/
inductive Region where
  /-- A word; with `isMark`, one that only marks the end of a text in the script. -/
  | word (isMark : Bool)
  /-- Double quotes; with `inBraces`, those around a part of the argument in braces. -/
  | quotes (inBraces : Bool)
  /-- The argument of a parameter in braces. -/
  | braces (quoted : Bool)
  /-- Double quotes in a quoted argument in braces. -/
  | innerQuotes
  /-- An arithmetic expression, with so many parentheses open. -/
  | arithmetic (depth : Nat)
  /-- A text in the script up to a line that is the mark. -/
  | document (mark : Text) (strip : Bool)
  /-- The index of an element, with so many brackets open. -/
  | index (depth : Nat)
  deriving DecidableEq, Repr

namespace Region

/-- Whether what stands there is quoted. -/
def isQuoted : Region → Bool
  | .word _ | .braces false | .index _ => false
  | _ => true

/-- Whether it is part of an argument in braces. -/
def isInBraces : Region → Bool
  | .quotes inBraces => inBraces
  | .braces _ | .innerQuotes => true
  | _ => false

/-- The argument in braces of a parameter that stands there. -/
def argument (region : Region) (isPattern : Bool) : Region :=
  .braces (region.isQuoted && !isPattern)

end Region

/-! ## Literals -/

/-- Puts literals of one kind that stand side by side together. -/
def merge : Word → Word
  | .literal text quoted :: pieces =>
    match merge pieces with
    | .literal more same :: rest =>
      if same = quoted then .literal (text ++ more) quoted :: rest
      else .literal text quoted :: .literal more same :: rest
    | rest => .literal text quoted :: rest
  | piece :: pieces => piece :: merge pieces
  | [] => []

/-- Characters that end a word. -/
def endsWord (c : Char) : Bool :=
  c = ' ' || c = '\t' || c = '\n' || c = ';' || c = '&' || c = '|' || c = '<' || c = '>' ||
    c = '(' || c = ')'

namespace Parse

/-! ## Quotes -/

/-- Stops at the end of the script because a quote is missing. -/
def refuseQuote {α : Type} : Parse α := fail "Syntax error: Unterminated quoted string"

/-- The text up to a single quote. -/
def singleQuoted (fuel : Nat) (read : Text) : Parse Text :=
  match fuel with
  | 0 => return read.reverse
  | fuel + 1 => do
    match ← plainChar with
    | none => refuseQuote
    | some '\'' => return read.reverse
    | some c => singleQuoted fuel (c :: read)

/-- The text up to a single quote in which a backslash keeps that from its meaning. -/
def escapeQuoted (fuel : Nat) (read : Text) : Parse Text :=
  match fuel with
  | 0 => return read.reverse
  | fuel + 1 => do
    match ← plainChar with
    | none => refuseQuote
    | some '\'' => return read.reverse
    | some '\\' =>
      match ← plainChar with
      | some c => escapeQuoted fuel (c :: '\\' :: read)
      | none => escapeQuoted fuel ('\\' :: read)
    | some c => escapeQuoted fuel (c :: read)

/-- What a backslash makes of the next character. -/
def escaped (region : Region) : Parse Word := do
  match ← plainChar with
  | none => return [.literal ['\\'] true]
  | some c =>
    let stays :=
      region.isQuoted && !(c = '\\' || c = '\x60' || c = '$') &&
        !(c = '"' && !(region matches .document _ _)) && !(c = '\x7d' && region.isInBraces)
    return [.literal (if stays then ['\\', c] else [c]) true]

/-! ## Scripts within words -/

/-- The text up to a back quote. A backslash keeps a back quote, a dollar sign or a backslash from
its meaning, and inside double quotes also a double quote. -/
def backquoted (fuel : Nat) (quoted : Bool) (read : Text) : Parse Text :=
  match fuel with
  | 0 => return read.reverse
  | fuel + 1 => do
    match ← char with
    | none => fail "Syntax error: EOF in backquote substitution"
    | some '\x60' => return read.reverse
    | some '\\' =>
      match ← plainChar with
      | none => backquoted fuel quoted ('\\' :: read)
      | some c =>
        if c = '\\' || c = '\x60' || c = '$' || c = '"' && quoted then
          backquoted fuel quoted (c :: read)
        else backquoted fuel quoted (c :: '\\' :: read)
    | some c => backquoted fuel quoted (c :: read)

/-- Reads a script on its own, with lines of its own. -/
def nested (script : Parse (Option Command)) (text : Text) : Parse (Option Command) := do
  let outer ← get
  set { outer with rest := text, line := 1, interruptions := [], awaited := [], again := false }
  let command ← script
  modify fun inner =>
    { inner with
      rest := outer.rest, line := outer.line, interruptions := outer.interruptions
      awaited := outer.awaited, again := false }
  return command

/-! ## Parameters -/

/-- The longest text of characters of a kind, behind what has been read of it; gives the character
that follows too. -/
def takeChars (fuel : Nat) (holds : Char → Bool) (read : Text) : Parse (Text × Option Char) :=
  match fuel with
  | 0 => return (read.reverse, none)
  | fuel + 1 => do
    let c ← char
    match c with
    | some d =>
      if holds d then takeChars fuel holds (d :: read) else return (read.reverse, c)
    | none => return (read.reverse, none)

/-- The name of a parameter that begins with a character, what is known of its use, and the
character that follows; no name if there is none. -/
def parameterName (fuel : Nat) (inBraces : Bool) (first : Option Char) :
    Parse (Option (Text × Option Use) × Option Char) := do
  match first with
  | none => return (none, none)
  | some c =>
    if startsName c then
      let (name, after) ← takeChars fuel isNameChar [c]
      return (some (name, none), after)
    else if c.isDigit then
      if inBraces then
        let (name, after) ← takeChars fuel Char.isDigit [c]
        return (some (name, none), after)
      else return (some ([c], none), ← char)
    else if c = '\x7d' then return (none, first)
    else
      let after ← char
      if inBraces && c = '#' then
        match after with
        | none => return (some (['#'], none), none)
        | some d =>
          if isNameChar d then
            let holds := if d.isDigit then Char.isDigit else isNameChar
            let (name, after) ← takeChars fuel holds [d]
            return (some (name, some .length), after)
          else
            let behind ← char
            if d = '\x7d' || behind != some '\x7d' then
              giveBack behind
              return (some (['#'], none), after)
            else if isSpecial d then return (some ([d], some .length), behind)
            else return (none, behind)
      else if isSpecial c then return (some ([c], none), after)
      else return (none, after)

/-- The use that a character behind a name asks for. -/
def useOf (orEmpty : Bool) : Char → Use
  | '-' => .otherwise orEmpty
  | '=' => .assigned orEmpty
  | '?' => .required orEmpty
  | '+' => .instead orEmpty
  | '\x7d' => if orEmpty then .faulty else .value
  | _ => .faulty

/-- The use of a parameter in braces, of which the first character has been read. -/
def readUse (first : Option Char) : Parse Use := do
  match first with
  | none => return .faulty
  | some ':' => return ((← char).map (useOf true)).getD .faulty
  | some c =>
    if c = '#' || c = '%' then
      let after ← char
      if after = some c then return .without (c == '#') true
      giveBack after
      return .without (c == '#') false
    else return useOf false c

/-- The argument in braces of a parameter that is used in some way. -/
def argumentOf (pieces : Region → Parse Word) (region : Region) (use : Use) : Parse Word := do
  match use with
  | .value => return []
  | .without _ _ => pieces (region.argument true)
  | _ => pieces (region.argument false)

/-- The index of an element, if a bracket has been read in front of it, and the character behind
it. -/
def readIndex (pieces : Region → Parse Word) (after : Option Char) :
    Parse (Option Word × Option Char) := do
  if after = some '[' && (← isExtended) then
    let index ← pieces (.index 0)
    return (some index, ← char)
  else return (none, after)

/-- The parameter in braces whose name has been read, and perhaps how it is used. -/
def parameterIn (pieces : Region → Parse Word) (region : Region) (name : Text) (given : Option Use)
    (after : Option Char) : Parse Piece := do
  let quoted := region.isQuoted
  let (index, after) ← readIndex pieces after
  let (use, argument) ←
    match given with
    | some use =>
      giveBack after
      let use := if after = some '\x7d' then use else .faulty
      pure (use, ← pieces (region.argument false))
    | none =>
      let use ← readUse after
      pure (use, ← argumentOf pieces region use)
  match index with
  | some index => return .element name index use argument quoted
  | none => return .parameter name use argument quoted

/-- The script up to a parenthesis. -/
def scriptInside (script : Parse (Option Command)) : Parse (Option Command) := do
  let awaited := (← get).awaited
  modify fun reader => { reader with awaited := [] }
  let command ← script
  unless (← get).token matches .operator [')'] do unexpected (some (.operator [')']))
  modify fun reader => { reader with awaited, again := false }
  return command

/-- The parameter, script or expression that a dollar sign begins. -/
def dollar (pieces : Region → Parse Word) (script : Parse (Option Command)) (fuel : Nat)
    (region : Region) : Parse Piece := do
  let quoted := region.isQuoted
  let c ← char
  match c with
  | some '(' =>
    match ← char with
    | some '(' => return .arithmetic (← pieces (.arithmetic 0)) quoted
    | after =>
      giveBack after
      return .output (← scriptInside script) quoted
  | some '\x7b' =>
    let (found, after) ← parameterName fuel true (← char)
    match found with
    | some (name, use) => parameterIn pieces region name use after
    | none =>
      giveBack after
      return .parameter [] .faulty (← pieces (region.argument false)) quoted
  | some d =>
    if startsName d || isSpecial d then
      let (found, after) ← parameterName fuel false c
      giveBack after
      return .parameter ((found.map (·.1)).getD []) .value [] quoted
    giveBack c
    return .literal ['$'] quoted
  | none => return .literal ['$'] quoted

/-! ## Texts in the script -/

/-- Whether what is left begins with a line that is the mark. If so it is read over; gives whether
that is so. -/
def atMark (mark : Text) (strip : Bool) : Parse Bool := do
  let reader ← get
  let line := if strip then reader.rest.dropWhile (· = '\t') else reader.rest
  match Text.dropStart? mark line with
  | some [] =>
    set { reader with rest := [] }
    return true
  | some ('\n' :: rest) =>
    set { reader with rest, line := reader.line + 1 }
    return true
  | _ =>
    set { reader with rest := line }
    return false

/-- The lines up to the mark, taken as they are. -/
def verbatim (fuel : Nat) (mark : Text) (strip atStart : Bool) (read : Text) : Parse Text :=
  match fuel with
  | 0 => return read.reverse
  | fuel + 1 => do
    if atStart then
      if ← atMark mark strip then return read.reverse
    match ← plainChar with
    | none => return read.reverse
    | some c => verbatim fuel mark strip (c = '\n') (c :: read)

/-! ## Pieces -/

/-- The end of the script, inside a region. -/
def atEnd (region : Region) (inDocument : Bool) (read : Word) : Parse Word :=
  match region with
  | .word _ | .document _ _ => return read
  | .index _ => fail "Syntax error: Missing ']'"
  | .arithmetic _ => fail "Syntax error: Missing '))'"
  | .quotes _ => refuseQuote
  | .braces quoted =>
    if quoted && !inDocument then refuseQuote
    else fail "Syntax error: Missing '\x7d'"
  | .innerQuotes =>
    if inDocument then fail "Syntax error: Missing '\x7d'"
    else refuseQuote

/-- Whether a piece stands for texts that are meant one by one. -/
def standsForMany : Piece → Bool
  | .parameter ['@'] use _ _ => use == .value
  | .element _ [.literal ['@'] _] use _ _ => use != .length
  | _ => false

/-- What double quotes make of the pieces in them, newest first: they stand for themselves even if
they are empty, but around texts that are meant one by one they stand for no more than there are. -/
def quotedPieces (inner : Word) : Word :=
  match inner with
  | [piece] => if standsForMany piece then inner else inner ++ [.literal [] true]
  | _ => inner ++ [.literal [] true]

/-- The pieces up to the end of a region, newest first behind those that have been read. -/
def piecesIn (inner : Region → Parse Word) (script : Parse (Option Command)) (inDocument : Bool)
    (fuel : Nat) (region : Region) (atStart : Bool) (read : Word) : Parse Word :=
  match fuel with
  | 0 => return read
  | fuel + 1 => do
    if atStart then
      if let .document mark strip := region then
        if ← atMark mark strip then return read
    let more (region : Region) (atStart : Bool) (read : Word) :=
      piecesIn inner script inDocument fuel region atStart read
    let quoted := region.isQuoted
    let reader ← get
    let c? ← char
    match c? with
    | none => atEnd region inDocument read
    | some c =>
      let literal := more region (c = '\n') (.literal [c] quoted :: read)
      let opensExtended (next : Char) : Parse Bool :=
        if quoted then return false else isNext next
      if region matches .word _ && endsWord c then
        giveBack c?
        return read
      else if c = '\\' then return ← more region false ((← escaped region) ++ read)
      else if c = '\'' && !quoted then
        let text ← singleQuoted fuel []
        more region false (.literal text true :: read)
      else if c = '"' then
        match region with
        | .quotes _ | .innerQuotes => return read
        | .word _ | .index _ =>
          more region false (quotedPieces (← inner (.quotes false)) ++ read)
        | .braces false => more region false (quotedPieces (← inner (.quotes true)) ++ read)
        | .braces true => more region false (quotedPieces (← inner .innerQuotes) ++ read)
        | .arithmetic _ => if reader.isExtended then more region false read else literal
        | .document _ _ => literal
      else if c = '\x7d' && region matches .braces _ then return read
      else if c = '$' && region != .word true then
        if ← opensExtended '"' then more region false read
        else if ← opensExtended '\'' then
          let _ ← char
          let text ← escapeQuoted fuel []
          let shown := (Conversion.Escape.replace Conversion.Escape.longQuoted text).text
          more region false (.literal (shown.takeWhile (· ≠ '\x00')) true :: read)
        else
          more region false ((← dollar (fun region => do return merge (← inner region).reverse)
            script fuel region) :: read)
      else if c = '\x60' && region != .word true then
        let text ← backquoted fuel quoted []
        more region false (.output (← nested script text) quoted :: read)
      else
        match region with
        | .arithmetic depth =>
          if c = '(' then more (.arithmetic (depth + 1)) false (.literal [c] true :: read)
          else if c = ')' then
            match depth with
            | depth + 1 => more (.arithmetic depth) false (.literal [c] true :: read)
            | 0 =>
              let after ← char
              if after = some ')' then return read
              giveBack after
              literal
          else literal
        | .index depth =>
          let taken := .literal [c] false :: read
          if c = '[' then more (.index (depth + 1)) false taken
          else if c = ']' then
            match depth with
            | depth + 1 => more (.index depth) false taken
            | 0 => return read
          else literal
        | _ => literal

/-- The pieces up to the end of a region, newest first. Regions are nested no deeper than the fuel.
-/
def region (script : Parse (Option Command)) (inDocument : Bool) (fuel : Nat) (around : Region) :
    Parse Word :=
  match fuel with
  | 0 => fail "Syntax error: too deeply nested"
  | fuel + 1 => do
    piecesIn (region script inDocument fuel) script inDocument (← steps) around true []

/-- How deep regions may be nested. -/
def maxDepth : Nat := 1000

/-- The word at the front of what is left. -/
def wordPieces (script : Parse (Option Command)) (isMark : Bool) : Parse Word := do
  return merge (← region script false maxDepth (.word isMark)).reverse

/-- The text in the script that is awaited, up to its mark. -/
def documentPieces (script : Parse (Option Command)) (awaited : Awaited) : Parse Word := do
  if awaited.verbatim then
    return [.literal (← verbatim (← steps) awaited.mark awaited.strip true []) true]
  else
    let around := .document awaited.mark awaited.strip
    return merge (← region script true maxDepth around).reverse

end Parse

end CheckoutLint.Shell
