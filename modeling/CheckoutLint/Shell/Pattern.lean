import CheckoutLint.Text.Basic

/-!
Patterns of the shell: a star for any text, a question mark for any character, brackets for a set of
characters. Quoted characters stand for themselves.

Main statement:

* `Pattern.covers_literal`: a pattern of plain characters covers just that text.
-/

namespace CheckoutLint.Shell

/-- A member of a set of characters. -/
inductive Member where
  | range (low high : Char)
  /-- A class of characters by its name. -/
  | named (name : Text)
  deriving DecidableEq, Repr

/-- A part of a pattern. -/
inductive Glob where
  | one (c : Char)
  | any
  | many
  | set (inverted : Bool) (members : List Member)
  deriving DecidableEq, Repr

/-- A pattern. -/
abbrev Pattern := List Glob

/-- Characters, each with whether it is quoted. -/
abbrev Marked := List (Char × Bool)

/-- The characters of a class, of which there is none with an unknown name. -/
def inClass? (name : Text) : Option (Char → Bool) :=
  let isPunct (c : Char) : Bool := '!' ≤ c && c ≤ '~' && !c.isAlphanum
  let isSpace (c : Char) : Bool := c = ' ' || '\t' ≤ c && c ≤ '\r'
  match String.ofList name with
  | "alnum" => some Char.isAlphanum
  | "alpha" => some Char.isAlpha
  | "blank" => some fun c => c = ' ' || c = '\t'
  | "cntrl" => some fun c => c < ' ' || c = '\x7f'
  | "digit" => some Char.isDigit
  | "graph" => some fun c => '!' ≤ c && c ≤ '~'
  | "lower" => some Char.isLower
  | "print" => some fun c => ' ' ≤ c && c ≤ '~'
  | "punct" => some isPunct
  | "space" => some isSpace
  | "upper" => some Char.isUpper
  | "xdigit" => some fun c => c.isDigit || 'a' ≤ c.toLower && c.toLower ≤ 'f'
  | _ => none

/-- Whether a member of a set is this character. -/
def Member.covers (c : Char) : Member → Bool
  | .range low high => low ≤ c && c ≤ high
  | .named name => (inClass? name).any fun holds => holds c

namespace Pattern

/-- The name of a class in front of some characters, and what follows it. -/
def className? (chars : Marked) : Option (Text × Marked) :=
  match chars with
  | (':', false) :: rest =>
    let name := (rest.takeWhile fun entry => entry.1.isAlpha).map (·.1)
    match rest.drop name.length with
    | (':', false) :: (']', false) :: rest =>
      if (inClass? name).isSome then some (name, rest) else none
    | _ => none
  | _ => none

/-- The members of a set, up to the bracket that closes it, and what follows. A bracket in the first
place is a member. Takes at most `fuel` steps. -/
def readMembers (fuel : Nat) (isFirst : Bool) (chars : Marked) : Option (List Member × Marked) :=
  match fuel, chars with
  | 0, _ | _, [] => none
  | fuel + 1, (c, quoted) :: rest =>
    let more (member : Member) (rest : Marked) : Option (List Member × Marked) :=
      (readMembers fuel false rest).map fun (members, rest) => (member :: members, rest)
    if c = ']' && !quoted && !isFirst then some ([], rest)
    else
      match if c = '[' && !quoted then className? rest else none with
      | some (name, rest) => more (.named name) rest
      | none =>
        match rest with
        | ('-', false) :: (high, highQuoted) :: behind =>
          if high = ']' && !highQuoted then more (.range c c) rest else more (.range c high) behind
        | _ => more (.range c c) rest

/-- The pattern of characters, each with whether it is quoted. Takes at most `fuel` steps. -/
def readGlobs (fuel : Nat) (chars : Marked) : Pattern :=
  match fuel, chars with
  | 0, _ | _, [] => []
  | fuel + 1, (c, quoted) :: rest =>
    let next := readGlobs fuel
    if quoted then .one c :: next rest
    else if c = '*' then .many :: next rest
    else if c = '?' then .any :: next rest
    else if c = '[' then
      let (inverted, set) :=
        match rest with
        | ('!', false) :: set | ('^', false) :: set => (true, set)
        | set => (false, set)
      match readMembers (set.length + 1) true set with
      | some (members, rest) => .set inverted members :: next rest
      | none => .one '[' :: next rest
    else .one c :: next rest

/-- The pattern of characters, each with whether it is quoted. -/
def ofMarked (chars : Marked) : Pattern := readGlobs (chars.length + 1) chars

/-- Whether a pattern covers a text. -/
def covers : Pattern → Text → Bool
  | [], s => s.isEmpty
  | [.many], _ => true
  | .many :: pattern, s => Text.anyEnding (covers pattern) s
  | .one c :: pattern, d :: s => c = d && covers pattern s
  | .any :: pattern, _ :: s => covers pattern s
  | .set inverted members :: pattern, d :: s =>
    (members.any (Member.covers d) != inverted) && covers pattern s
  | _ :: _, [] => false

/-- A pattern of plain characters covers just that text. -/
theorem covers_literal (text s : Text) : covers (text.map .one) s = true ↔ s = text := by
  induction text generalizing s with
  | nil => simp [covers]
  | cons c text ih =>
    cases s with
    | nil => simp [covers]
    | cons d s =>
      simp only [List.map_cons, covers, Bool.and_eq_true, decide_eq_true_eq, ih, List.cons.injEq]
      exact and_congr_left fun _ => eq_comm

/-- The numbers up to a length, the least or the greatest first. -/
def lengths (longest : Bool) (s : Text) : List Nat :=
  if longest then (List.range (s.length + 1)).reverse else List.range (s.length + 1)

/-- A text without the shortest or longest start that a pattern covers. -/
def dropStart (longest : Bool) (pattern : Pattern) (s : Text) : Text :=
  match (lengths longest s).find? fun n => covers pattern (s.take n) with
  | some n => s.drop n
  | none => s

/-- A text without the shortest or longest end that a pattern covers. -/
def dropEnd (longest : Bool) (pattern : Pattern) (s : Text) : Text :=
  match (lengths longest s).find? fun n => covers pattern (s.drop (s.length - n)) with
  | some n => s.take (s.length - n)
  | none => s

end Pattern

end CheckoutLint.Shell
