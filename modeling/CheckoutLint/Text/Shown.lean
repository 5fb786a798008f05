import CheckoutLint.Text.Basic

/-!
How octet texts are shown in messages. A name is shown in a form that a shell would read back: in
quotes if anything in it is special there, with escapes for what cannot be printed. Other texts are
shown between quotes with backslashes.

Main statement:

* `Shown.name_of_plain`: a name of plain characters is shown as it is.
-/

namespace CheckoutLint.Shown

/-- Whether an octet can be printed. -/
def isPrintable (c : Char) : Bool := ' ' ≤ c && c ≤ '~'

/-- The letter that stands behind a backslash for an octet that cannot be printed. -/
def letter? : Char → Option Char
  | '\x07' => some 'a'
  | '\x08' => some 'b'
  | '\t' => some 't'
  | '\n' => some 'n'
  | '\x0b' => some 'v'
  | '\x0c' => some 'f'
  | '\r' => some 'r'
  | _ => none

/-- An octet that cannot be printed, as an escape. -/
def escape (c : Char) : Text :=
  match letter? c with
  | some letter => ['\\', letter]
  | none =>
    let digit (n : Nat) : Char := Char.ofNat ('0'.toNat + n % 8)
    ['\\', digit (c.toNat / 64), digit (c.toNat / 8), digit c.toNat]

/-- Characters that mean nothing to a shell. -/
def isPlain (c : Char) : Bool := c.isAlphanum || "%+,-./:]_@".toList.contains c

/-- Whether a character at a place in a name of some length means something to a shell. -/
def isSpecial (length place : Nat) (c : Char) : Bool :=
  if c = '\x7b' || c = '\x7d' then length = 1
  else if c = '#' || c = '~' then place = 0
  else !isPlain c

/-- Characters that mean the same in both kinds of quotes. -/
def isCommon (length place : Nat) (c : Char) : Bool :=
  isPlain c || c = ' ' || c = '\'' ||
    "\x7b\x7d#~".toList.contains c && isSpecial length place c

/-- What stands between the quotes around a name; `escaping` says that an escape has just been
written. -/
def inner (escaping : Bool) : Text → Text
  | [] => []
  | c :: rest =>
    if isPrintable c then
      let front : Text := if escaping then "''".toList else []
      front ++ (if c = '\'' then "'\\''".toList else [c]) ++ inner false rest
    else
      let front : Text := if escaping then [] else "'$'".toList
      front ++ escape c ++ inner true rest

/-- A name between quotes. -/
def always (name : Text) : Text :=
  let isCommonName := (name.zipIdx.all fun (c, place) => isCommon name.length place c)
  if name.contains '\'' && isCommonName then '"' :: name ++ ['"']
  else '\'' :: inner false name ++ ['\'']

/-- A name, between quotes if it needs them. -/
def name (name : Text) : Text :=
  if name.isEmpty || name.zipIdx.any fun (c, place) => isSpecial name.length place c then
    always name
  else name

/-- A name of plain characters is shown as it is. -/
theorem name_of_plain {text : Text} (full : text ≠ []) (h : ∀ c ∈ text, isPlain c = true) :
    name text = text := by
  have notSpecial : ∀ entry ∈ text.zipIdx, isSpecial text.length entry.2 entry.1 = false := by
    intro entry mem
    have plain := h entry.1 (List.fst_mem_of_mem_zipIdx mem)
    unfold isSpecial
    split
    · rename_i brace
      simp only [Bool.or_eq_true, decide_eq_true_eq] at brace
      rcases brace with brace | brace <;> rw [brace] at plain <;> exact absurd plain (by decide)
    · split
      · rename_i sign
        simp only [Bool.or_eq_true, decide_eq_true_eq] at sign
        rcases sign with sign | sign <;> rw [sign] at plain <;> exact absurd plain (by decide)
      · rw [plain]
        rfl
  rw [name, if_neg]
  simp only [Bool.or_eq_true, List.isEmpty_iff, full, false_or, List.any_eq_true, not_exists,
    not_and, Bool.not_eq_true]
  exact notSpecial

/-- A text between quotes, in which backslashes stand before quotes and backslashes. -/
def exactly (text : Text) : Text :=
  '\'' :: text.flatMap (fun c =>
    if c = '\'' || c = '\\' then ['\\', c] else if isPrintable c then [c] else escape c) ++ ['\'']

end CheckoutLint.Shown
