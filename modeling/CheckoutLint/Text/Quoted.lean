import CheckoutLint.Text.Glyph

/-!
Paths in quotation marks. Inside the marks a character that could be misread is escaped: the mark
and the backslash, the controls that have a letter of their own, and by number every character that
cannot be shown on its own.

Main statement:

* `Text.quoted_eq_of_plain`: a text in which nothing needs an escape stands unchanged between two
  marks.
-/

namespace CheckoutLint.Text

/-- A number in lower-case hexadecimal. -/
def ofNatHex (n : Nat) : Text := Nat.toDigits 16 n

/-- A character as it is written between quotation marks. -/
def quoteChar (c : Char) : Text :=
  if c = '\x00' then "\\0".toList
  else if c = '\t' then "\\t".toList
  else if c = '\n' then "\\n".toList
  else if c = '\r' then "\\r".toList
  else if c = '"' ∨ c = '\\' then ['\\', c]
  else if stands c then [c]
  else "\\u\x7b".toList ++ ofNatHex c.toNat ++ "\x7d".toList

/-- The text between quotation marks. -/
def quoted (s : Text) : Text := '"' :: s.flatMap quoteChar ++ ['"']

/-- A text of plain characters is quoted as it is. -/
theorem quoted_eq_of_plain {s : Text} (plain : ∀ c ∈ s, quoteChar c = [c]) :
    quoted s = '"' :: s ++ ['"'] := by
  have same : s.flatMap quoteChar = s := by
    induction s with
    | nil => rfl
    | cons c s ih =>
      rw [List.flatMap_cons, plain c List.mem_cons_self,
        ih fun d hd => plain d (List.mem_cons_of_mem _ hd)]
      rfl
  rw [quoted, same]

end CheckoutLint.Text
