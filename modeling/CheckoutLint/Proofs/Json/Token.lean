import CheckoutLint.Conversion.Escape
import CheckoutLint.Json

/-!
The tokens of JSON texts. Any JSON text is cut into brackets, colons, commas, the three words,
numerals and strings; blanks between them do not count. A string may hold every character but a
control as it is; behind a backslash stand a letter or four hexadecimal digits, two times four for a
character beyond those.

* `Json.cutString?_quote`: a string that is written is cut off whole, whatever follows it.
* `Json.LaidOut.tokens?_eq`: what is written token by token is cut into these tokens.
* `Json.LaidOut.tidy`, `Json.Spot.Tidy.controls`: of the controls there are only line feeds then,
  and none is in a string.
-/

namespace CheckoutLint.Json

open Conversion

/-! ## Strings -/

/-- Four hexadecimal digits: the number that they write, and what follows. -/
def cutUnit? (s : Text) : Option (Nat × Text) :=
  let digits := s.take 4
  if digits.length = 4 ∧ digits.all Escape.isHex = true then
    some (Escape.number 16 digits, s.drop 4)
  else none

/-- A character by its number in UTF-16, and what follows: one unit, or a high and a low one with
their escapes. -/
def cutCodePoint? (s : Text) : Option (Char × Text) :=
  (cutUnit? s).bind fun (unit, rest) =>
    if 0xd800 ≤ unit ∧ unit < 0xdc00 then
      ((Text.dropStart? "\\u".toList rest).bind cutUnit?).bind fun (low, rest) =>
        if 0xdc00 ≤ low ∧ low < 0xe000 then
          some (Char.ofNat (0x10000 + 0x400 * (unit - 0xd800) + (low - 0xdc00)), rest)
        else none
    else if 0xdc00 ≤ unit ∧ unit < 0xe000 then none
    else some (Char.ofNat unit, rest)

/-- What single characters behind a backslash stand for. -/
def shortEscapes : List (Char × Char) :=
  [('"', '"'), ('\\', '\\'), ('/', '/'), ('b', '\x08'), ('f', '\x0c'), ('n', '\n'), ('r', '\r'),
    ('t', '\t')]

/-- What is written behind a backslash, and what follows. -/
def cutEscaped? : Text → Option (Char × Text)
  | [] => none
  | c :: s => if c = 'u' then cutCodePoint? s else (shortEscapes.lookup c).map (·, s)

/-- What is written inside a string from a first character on, and what follows. Controls are not
written as they are. -/
def cutCharacter? (c : Char) (s : Text) : Option (Char × Text) :=
  if c = '\\' then cutEscaped? s else if c < ' ' then none else some (c, s)

theorem suffix_of_cutUnit? {s rest : Text} {unit : Nat} (h : cutUnit? s = some (unit, rest)) :
    rest <:+ s := by
  rw [cutUnit?] at h
  split at h
  · obtain ⟨-, rfl⟩ := Prod.mk.inj (Option.some.inj h)
    exact List.drop_suffix 4 s
  · cases h

theorem suffix_of_cutCodePoint? {s rest : Text} {c : Char}
    (h : cutCodePoint? s = some (c, rest)) : rest <:+ s := by
  obtain ⟨⟨unit, behind⟩, first, h⟩ := Option.bind_eq_some_iff.1 h
  have whole := suffix_of_cutUnit? first
  dsimp only at h
  split at h
  · obtain ⟨⟨low, last⟩, second, h⟩ := Option.bind_eq_some_iff.1 h
    obtain ⟨middle, marked, second⟩ := Option.bind_eq_some_iff.1 second
    dsimp only at h
    split at h
    · obtain ⟨-, rfl⟩ := Prod.mk.inj (Option.some.inj h)
      have mark : middle <:+ behind := ⟨_, (Text.dropStart?_eq_some_iff.1 marked).symm⟩
      exact ((suffix_of_cutUnit? second).trans mark).trans whole
    · cases h
  · split at h
    · cases h
    · obtain ⟨-, rfl⟩ := Prod.mk.inj (Option.some.inj h)
      exact whole

theorem suffix_of_cutCharacter? {c d : Char} {s rest : Text}
    (h : cutCharacter? c s = some (d, rest)) : rest <:+ s := by
  rw [cutCharacter?] at h
  split at h
  · cases s with
    | nil => cases h
    | cons e s =>
      rw [cutEscaped?] at h
      split at h
      · exact (suffix_of_cutCodePoint? h).trans (List.suffix_cons e s)
      · obtain ⟨_, -, same⟩ := Option.map_eq_some_iff.1 h
        obtain ⟨-, rfl⟩ := Prod.mk.inj same
        exact List.suffix_cons e s
  · split at h
    · cases h
    · obtain ⟨-, rfl⟩ := Prod.mk.inj (Option.some.inj h)
      exact List.suffix_rfl

/-- A string up to the quotation mark at its end, and what follows that. -/
def cutString? : Text → Option (Text × Text)
  | [] => none
  | c :: s =>
    if c = '"' then some ([], s)
    else
      match _h : cutCharacter? c s with
      | none => none
      | some (d, rest) => (cutString? rest).map fun (text, behind) => (d :: text, behind)
termination_by s => s.length
decreasing_by exact Nat.lt_succ_of_le (suffix_of_cutCharacter? _h).length_le

/-- A string is read character by character. -/
theorem cutString?_cons {c d : Char} {s rest : Text} (within : c ≠ '"')
    (cut : cutCharacter? c s = some (d, rest)) :
    cutString? (c :: s) = (cutString? rest).map fun (text, behind) => (d :: text, behind) := by
  rw [cutString?, if_neg within]
  split
  · rename_i failed
    cases cut.symm.trans failed
  · rename_i first
    obtain ⟨rfl, rfl⟩ := Prod.mk.inj (Option.some.inj (cut.symm.trans first))
    rfl

theorem suffix_of_cutString? {s text rest : Text} (h : cutString? s = some (text, rest)) :
    rest <:+ s := by
  fun_induction cutString? s generalizing text with
  | case1 => cases h
  | case2 s =>
    obtain ⟨-, rfl⟩ := Prod.mk.inj (Option.some.inj h)
    exact List.suffix_cons _ s
  | case3 => cases h
  | case4 c s _ d behind cut ih =>
    obtain ⟨⟨others, last⟩, below, same⟩ := Option.map_eq_some_iff.1 h
    obtain ⟨-, rfl⟩ := Prod.mk.inj same
    exact ((ih below).trans (suffix_of_cutCharacter? cut)).trans (List.suffix_cons c s)

/-- A control by its number. -/
theorem cutCodePoint?_control {c : Char} (control : c < ' ') (s : Text) :
    cutCodePoint? ('0' :: '0' :: hexDigit (c.toNat / 16) :: hexDigit (c.toNat % 16) :: s) =
      some (c, s) := by
  have digits : ∀ n < 32, [hexDigit (n / 16), hexDigit (n % 16)].all Escape.isHex = true ∧
      Escape.number 16 ['0', '0', hexDigit (n / 16), hexDigit (n % 16)] = n := by
    decide
  have small : c.toNat < 32 := control
  obtain ⟨hex, number⟩ := digits _ small
  have unit : cutUnit?
      ('0' :: '0' :: hexDigit (c.toNat / 16) :: hexDigit (c.toNat % 16) :: s) =
        some (c.toNat, s) := by
    have hex : ['0', '0', hexDigit (c.toNat / 16), hexDigit (c.toNat % 16)].all Escape.isHex :=
      hex
    simp only [cutUnit?, List.take_succ_cons, List.take_zero, List.drop_succ_cons, List.drop_zero,
      number, hex]
    rfl
  rw [cutCodePoint?, unit, Option.bind_some]
  dsimp only
  rw [if_neg (by omega), if_neg (by omega), Char.ofNat_toNat]

/-- A character is written behind a backslash, by its number, or as it is. -/
theorem escape_cases (c : Char) :
    (∃ letter ∈ shortEscapes.map Prod.fst, escape c = ['\\', letter] ∧
        shortEscapes.lookup letter = some c) ∨
      (c < ' ' ∧
        escape c = "\\u00".toList ++ [hexDigit (c.toNat / 16), hexDigit (c.toNat % 16)]) ∨
      (c ≠ '"' ∧ c ≠ '\\' ∧ ¬c < ' ' ∧ escape c = [c]) := by
  by_cases short : c ∈ ['"', '\\', '\x08', '\t', '\n', '\x0c', '\r']
  · simp only [List.mem_cons, List.not_mem_nil, or_false] at short
    obtain rfl | rfl | rfl | rfl | rfl | rfl | rfl := short
    · exact .inl ⟨'"', by decide, rfl, rfl⟩
    · exact .inl ⟨'\\', by decide, rfl, rfl⟩
    · exact .inl ⟨'b', by decide, rfl, rfl⟩
    · exact .inl ⟨'t', by decide, rfl, rfl⟩
    · exact .inl ⟨'n', by decide, rfl, rfl⟩
    · exact .inl ⟨'f', by decide, rfl, rfl⟩
    · exact .inl ⟨'r', by decide, rfl, rfl⟩
  · simp only [List.mem_cons, List.not_mem_nil, or_false, not_or] at short
    obtain ⟨mark, slash, backspace, tab, feed, page, back⟩ := short
    rw [escape, if_neg mark, if_neg slash, if_neg backspace, if_neg tab, if_neg feed, if_neg page,
      if_neg back]
    by_cases control : c < ' '
    · exact .inr (.inl ⟨control, if_pos control⟩)
    · exact .inr (.inr ⟨mark, slash, control, if_neg control⟩)

/-- What stands for a character in a string is read as that character. -/
theorem cutString?_escape (c : Char) (s : Text) :
    cutString? (escape c ++ s) =
      (cutString? s).map fun (text, behind) => (c :: text, behind) := by
  rcases escape_cases c with
    ⟨letter, mem, written, meant⟩ | ⟨control, written⟩ | ⟨mark, slash, control, written⟩
  · have unnumbered : 'u' ∉ shortEscapes.map Prod.fst := by decide
    have cut : cutEscaped? (letter :: s) = some (c, s) := by
      have other : letter ≠ 'u' := fun same => unnumbered (same ▸ mem)
      rw [cutEscaped?, if_neg other, meant, Option.map_some]
    rw [written]
    exact cutString?_cons (by decide) cut
  · rw [written]
    exact cutString?_cons (by decide) (cutCodePoint?_control control s)
  · have cut : cutCharacter? c s = some (c, s) := by
      rw [cutCharacter?, if_neg slash, if_neg control]
    rw [written]
    exact cutString?_cons mark cut

/-- A string that is quoted is read back. -/
theorem cutString?_quote (text rest : Text) :
    cutString? (text.flatMap escape ++ '"' :: rest) = some (text, rest) := by
  induction text with
  | nil => rw [List.flatMap_nil, List.nil_append, cutString?, if_pos rfl]
  | cons c text ih =>
    rw [List.flatMap_cons, List.append_assoc, cutString?_escape, ih]
    rfl

/-! ## Numerals -/

/-- What follows one digit or more. -/
def dropDigits? (s : Text) : Option Text :=
  if s.head?.any Char.isDigit then some (s.dropWhile Char.isDigit) else none

/-- Whether a text is empty or the exponent of a numeral. -/
def isExponent : Text → Bool
  | [] => true
  | e :: '+' :: s | e :: '-' :: s | e :: s => e.toLower == 'e' && dropDigits? s == some []

/-- Whether a text is what may stand in a numeral behind its whole part. -/
def isFraction : Text → Bool
  | '.' :: s => (dropDigits? s).any isExponent
  | s => isExponent s

/-- Whether a text is a numeral without a sign. A zero in front stands alone. -/
def isUnsigned : Text → Bool
  | '0' :: s => isFraction s
  | s => (dropDigits? s).any isFraction

/-- Whether a text is a numeral. -/
def isNumeral : Text → Bool
  | '-' :: s => isUnsigned s
  | s => isUnsigned s

/-- Whether a character can stand in a numeral. -/
def isNumeralChar (c : Char) : Bool := c.isDigit || "+-.eE".toList.contains c

/-! ## Tokens -/

/-- What JSON texts are made of, blanks apart. -/
inductive Token where
  | openArray
  | closeArray
  | openObject
  | closeObject
  | colon
  | comma
  | null
  | bool (value : Bool)
  | number (numeral : Text)
  | string (text : Text)
  deriving DecidableEq, Repr

namespace Token

/-- How a token is written. -/
def text : Token → Text
  | openArray => "[".toList
  | closeArray => "]".toList
  | openObject => "\x7b".toList
  | closeObject => "\x7d".toList
  | colon => ":".toList
  | comma => ",".toList
  | null => "null".toList
  | bool true => "true".toList
  | bool false => "false".toList
  | number numeral => numeral
  | string text => quote text

/-- The tokens that are written in one way only. -/
def signs : List Token :=
  [openArray, closeArray, openObject, closeObject, colon, comma, null, bool true, bool false]

end Token

/-- A numeral, as far as it goes, and what follows. -/
def cutNumber? (s : Text) : Option (Token × Text) :=
  let numeral := s.takeWhile isNumeralChar
  if isNumeral numeral then some (.number numeral, s.dropWhile isNumeralChar) else none

/-- The token at the front of a text, and what follows. -/
def cutToken? : Text → Option (Token × Text)
  | '"' :: s => (cutString? s).map fun (text, rest) => (.string text, rest)
  | s =>
    (Token.signs.findSome? fun sign => (Text.dropStart? sign.text s).map (sign, ·)).or
      (cutNumber? s)

/-- Whether a character stands between tokens without being one. -/
def isSpace (c : Char) : Bool := " \t\n\r".toList.contains c

/-- Every token takes something of the text. -/
theorem length_lt_of_cutToken? {s rest : Text} {token : Token}
    (h : cutToken? s = some (token, rest)) : rest.length < s.length := by
  rw [cutToken?.eq_def] at h
  split at h
  case h_1 s =>
    obtain ⟨⟨_, behind⟩, cut, same⟩ := Option.map_eq_some_iff.1 h
    obtain ⟨-, rfl⟩ := Prod.mk.inj same
    exact Nat.lt_succ_of_le (suffix_of_cutString? cut).length_le
  case h_2 =>
    rcases Option.or_eq_some_iff.1 h with first | ⟨-, number⟩
    · obtain ⟨sign, mem, cut⟩ := List.exists_of_findSome?_eq_some first
      obtain ⟨_, dropped, same⟩ := Option.map_eq_some_iff.1 cut
      obtain ⟨-, rfl⟩ := Prod.mk.inj same
      have written : ∀ sign ∈ Token.signs, 0 < sign.text.length := by decide
      have written := written sign mem
      rw [Text.dropStart?_eq_some_iff.1 dropped, List.length_append]
      omega
    · rw [cutNumber?] at number
      split at number
      · rename_i numeral
        obtain ⟨-, rfl⟩ := Prod.mk.inj (Option.some.inj number)
        have split := congrArg List.length (List.takeWhile_append_dropWhile
          (p := isNumeralChar) (l := s))
        have some : s.takeWhile isNumeralChar ≠ [] := fun none => by
          rw [none] at numeral
          cases numeral
        have := List.length_pos_iff.2 some
        rw [List.length_append] at split
        omega
      · cases number

/-- The tokens of a text. -/
def tokens? : Text → Option (List Token)
  | [] => some []
  | c :: s =>
    if isSpace c then tokens? s
    else
      match _h : cutToken? (c :: s) with
      | none => none
      | some (token, rest) => (tokens? rest).map (token :: ·)
termination_by s => s.length
decreasing_by
  · exact Nat.lt_succ_self _
  · exact length_lt_of_cutToken? _h

theorem tokens?_space {c : Char} (space : isSpace c = true) (s : Text) :
    tokens? (c :: s) = tokens? s := by
  rw [tokens?, if_pos space]

/-- A token at the front is followed by the tokens of the rest. -/
theorem tokens?_cons {c : Char} {s rest : Text} {token : Token} (solid : isSpace c = false)
    (cut : cutToken? (c :: s) = some (token, rest)) :
    tokens? (c :: s) = (tokens? rest).map (token :: ·) := by
  rw [tokens?, solid, if_neg Bool.false_ne_true]
  split
  · rename_i failed
    cases cut.symm.trans failed
  · rename_i first
    obtain ⟨rfl, rfl⟩ := Prod.mk.inj (Option.some.inj (cut.symm.trans first))
    rfl

/-- Whether a token ends where it ends, whatever follows. A numeral may go on. -/
def Token.IsClosed : Token → Prop
  | .number _ => False
  | _ => True

/-- The text of a token is read as that token. -/
theorem tokens?_text {token : Token} (closed : token.IsClosed) (s : Text) :
    tokens? (token.text ++ s) = (tokens? s).map (token :: ·) := by
  cases token with
  | number numeral => exact closed.elim
  | string text =>
    have written : (Token.string text).text ++ s = '"' :: (text.flatMap escape ++ '"' :: s) :=
      List.append_assoc _ _ _
    rw [written]
    refine tokens?_cons rfl ?_
    rw [cutToken?, cutString?_quote, Option.map_some]
  | bool value => cases value <;> exact tokens?_cons rfl rfl
  | openArray | closeArray | openObject | closeObject | colon | comma | null =>
    exact tokens?_cons rfl rfl

/-! ## Layouts -/

/-- `LaidOut s tokens`: the text is made of these tokens, none of them a numeral, with blanks and
line feeds between them. -/
inductive LaidOut : Text → List Token → Prop where
  | nil : LaidOut [] []
  | blank {s : Text} {tokens : List Token} (rest : LaidOut s tokens) : LaidOut (' ' :: s) tokens
  | feed {s : Text} {tokens : List Token} (rest : LaidOut s tokens) : LaidOut ('\n' :: s) tokens
  | token {token : Token} {s : Text} {tokens : List Token} (closed : token.IsClosed)
    (rest : LaidOut s tokens) : LaidOut (token.text ++ s) (token :: tokens)

namespace LaidOut

/-- Layouts one behind the other hold their tokens one behind the other. -/
theorem append {s t : Text} {tokens others : List Token} (left : LaidOut s tokens)
    (right : LaidOut t others) : LaidOut (s ++ t) (tokens ++ others) := by
  induction left with
  | nil => exact right
  | blank _ ih => exact .blank ih
  | feed _ ih => exact .feed ih
  | token closed _ ih =>
    rw [List.append_assoc]
    exact .token closed ih

theorem single (token : Token) (closed : token.IsClosed) : LaidOut token.text [token] := by
  simpa using LaidOut.token closed .nil

/-- The end of a line and what it is indented by hold no token. -/
theorem newline (depth : Nat) : LaidOut (newline depth) [] := by
  refine .feed ?_
  induction 2 * depth with
  | zero => exact .nil
  | succ count ih =>
    rw [List.replicate_succ]
    exact .blank ih

theorem line {s : Text} {tokens : List Token} (laid : LaidOut s tokens) (depth : Nat) :
    LaidOut (s ++ Json.newline depth) tokens := by
  simpa using laid.append (.newline depth)

/-- A layout is read as its tokens. -/
theorem tokens?_eq {s : Text} {tokens : List Token} (laid : LaidOut s tokens) :
    tokens? s = some tokens := by
  induction laid with
  | nil => rw [tokens?]
  | blank _ ih => rw [tokens?_space rfl, ih]
  | feed _ ih => rw [tokens?_space rfl, ih]
  | token closed _ ih => rw [tokens?_text closed, ih, Option.map_some]

end LaidOut

/-! ## Controls -/

/-- Where a character of a JSON text stands. -/
inductive Spot where
  | outside
  | inside
  /-- Inside a string, behind a backslash. -/
  | escaped
  deriving DecidableEq, Repr

namespace Spot

/-- Where the next character stands. -/
def next : Spot → Char → Spot
  | outside, c => if c = '"' then inside else outside
  | inside, c => if c = '"' then outside else if c = '\\' then escaped else inside
  | escaped, _ => inside

/-- Where the character behind a text stands, if the text starts at a spot. -/
def after (start : Spot) (s : Text) : Spot := s.foldl next start

/-- `Tidy start s finish`: a text that leads from spot to spot and in which every control is a line
feed outside of strings. -/
inductive Tidy : Spot → Text → Spot → Prop where
  | nil (spot : Spot) : Tidy spot [] spot
  | cons {spot finish : Spot} {c : Char} {s : Text}
    (tidy : c < ' ' → c = '\n' ∧ spot = .outside) (rest : Tidy (spot.next c) s finish) :
    Tidy spot (c :: s) finish

namespace Tidy

variable {start middle finish : Spot} {s t : Text}

theorem append (left : Tidy start s middle) (right : Tidy middle t finish) :
    Tidy start (s ++ t) finish := by
  induction left with
  | nil => exact right
  | cons tidy _ ih => exact .cons tidy (ih right)

/-- A text without controls leads wherever it does. -/
theorem of_no_controls (start : Spot) (plain : s.any (· < ' ') = false) :
    Tidy start s (start.after s) := by
  induction s generalizing start with
  | nil => exact .nil start
  | cons c s ih =>
    obtain ⟨first, others⟩ := Bool.or_eq_false_iff.1 plain
    exact .cons (fun control => absurd control (of_decide_eq_false first)) (ih _ others)

/-- In a tidy text a control character is a line end outside of strings. -/
theorem controls (tidy : Tidy start s finish) {before behind : Text} {c : Char}
    (split : s = before ++ c :: behind) (control : c < ' ') :
    c = '\n' ∧ start.after before = .outside := by
  induction tidy generalizing before with
  | nil => cases before <;> cases split
  | cons tidy _ ih =>
    cases before with
    | nil =>
      obtain ⟨rfl, -⟩ := List.cons.inj split
      exact tidy control
    | cons d before =>
      obtain ⟨rfl, others⟩ := List.cons.inj split
      exact ih others

end Tidy

/-- Inside a string nothing is written that would end it, and no control. -/
theorem tidy_escape (c : Char) : Tidy inside (escape c) inside := by
  have plain : (escape c).any (· < ' ') = false ∧ inside.after (escape c) = inside := by
    rcases escape_cases c with
      ⟨letter, mem, written, -⟩ | ⟨control, written⟩ | ⟨mark, slash, control, written⟩
    · have letters : (shortEscapes.map Prod.fst).any (· < ' ') = false := by decide
      refine written ▸ ⟨List.any_eq_false.2 fun d among => ?_, rfl⟩
      rcases List.mem_cons.1 among with rfl | last
      · decide
      · exact List.any_eq_false.1 letters d (List.mem_singleton.1 last ▸ mem)
    · have numbers : ∀ n < 32,
          ("\\u00".toList ++ [hexDigit (n / 16), hexDigit (n % 16)]).any (· < ' ') = false ∧
            inside.after ("\\u00".toList ++ [hexDigit (n / 16), hexDigit (n % 16)]) = inside := by
        decide
      exact written ▸ numbers c.toNat control
    · rw [written]
      refine ⟨?_, ?_⟩
      · rw [List.any_cons, List.any_nil, Bool.or_false, decide_eq_false control]
      · rw [after, List.foldl_cons, List.foldl_nil, next, if_neg mark, if_neg slash]
  have tidy := Tidy.of_no_controls inside plain.1
  rwa [plain.2] at tidy

/-- A quoted text is tidy. -/
theorem tidy_quote (text : Text) : Tidy outside (quote text) outside := by
  have within : Tidy inside (text.flatMap escape) inside := by
    induction text with
    | nil => exact .nil inside
    | cons c text ih => exact (tidy_escape c).append ih
  have mark : ¬ '"' < ' ' := by decide
  exact .cons (fun control => absurd control mark)
    (within.append (.cons (fun control => absurd control mark) (.nil outside)))

theorem tidy_text {token : Token} (closed : token.IsClosed) : Tidy outside token.text outside := by
  cases token with
  | number numeral => exact closed.elim
  | string text => exact tidy_quote text
  | bool value => cases value <;> exact Tidy.of_no_controls outside (by decide)
  | openArray | closeArray | openObject | closeObject | colon | comma | null =>
    exact Tidy.of_no_controls outside (by decide)

end Spot

/-- Every layout is tidy. -/
theorem LaidOut.tidy {s : Text} {tokens : List Token} (laid : LaidOut s tokens) :
    Spot.Tidy .outside s .outside := by
  induction laid with
  | nil => exact .nil .outside
  | blank _ ih => exact .cons (fun control => absurd control (by decide)) ih
  | feed _ ih => exact .cons (fun _ => ⟨rfl, rfl⟩) ih
  | token closed _ ih => exact (Spot.tidy_text closed).append ih

end CheckoutLint.Json
