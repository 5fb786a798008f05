import CheckoutLint.Text.Basic

/-!
The two classes of blank characters. Prose is trimmed of every character that has the property
`White_Space`; words are separated by the six blanks of ASCII only, so that a no-break space is part
of the word it stands in.

Main statements:

* `isAsciiBlank_imp_isBlank`: the small class is part of the large one.
* `Text.trimStart_eq_self_iff`, `Text.trimEnd_eq_self_iff`: trimming leaves a text alone exactly if
  it does not begin, or end, with a blank.
-/

namespace CheckoutLint

/-- Characters with the property `White_Space`. -/
def isBlank (c : Char) : Bool :=
  ('\t' ≤ c && c ≤ '\r') || c = ' ' || c = '\u0085' || c = '\u00a0' || c = '\u1680' ||
    ('\u2000' ≤ c && c ≤ '\u200a') || c = '\u2028' || c = '\u2029' || c = '\u202f' ||
    c = '\u205f' || c = '\u3000'

/-- The six blanks of ASCII: tab, line feed, vertical tab, form feed, carriage return and space. -/
def isAsciiBlank (c : Char) : Bool :=
  ('\t' ≤ c && c ≤ '\r') || c = ' '

/-- Every ASCII blank is a blank. -/
theorem isAsciiBlank_imp_isBlank {c : Char} (h : isAsciiBlank c = true) : isBlank c = true := by
  simp only [isAsciiBlank, Bool.or_eq_true] at h
  rcases h with h | h <;> simp [isBlank, h]

namespace Text

/-- The text from its first character that is not blank. -/
def trimStart (s : Text) : Text := s.dropWhile isBlank

/-- The text up to its last character that is not blank. -/
def trimEnd (s : Text) : Text := (s.reverse.dropWhile isBlank).reverse

/-- The text without the blanks at its two ends. -/
def trim (s : Text) : Text := trimEnd (trimStart s)

/-- Nothing is trimmed from the front just if no blank stands there. -/
theorem trimStart_eq_self_iff {s : Text} : trimStart s = s ↔ ∀ c ∈ s.head?, isBlank c = false := by
  cases s with
  | nil => simp [trimStart]
  | cons c s =>
    cases h : isBlank c with
    | false => simp [trimStart, h]
    | true =>
      have short : (s.dropWhile isBlank).length ≤ s.length :=
        (List.dropWhile_suffix isBlank).length_le
      simp only [trimStart, List.dropWhile_cons, h, if_true, List.head?_cons, Option.mem_some_iff,
        forall_eq', Bool.true_eq_false, iff_false]
      intro eq
      rw [eq, List.length_cons] at short
      omega

/-- Nothing is trimmed from the end just if no blank stands there. -/
theorem trimEnd_eq_self_iff {s : Text} :
    trimEnd s = s ↔ ∀ c ∈ s.getLast?, isBlank c = false := by
  have flip : trimEnd s = s ↔ trimStart s.reverse = s.reverse := by
    rw [trimEnd, List.reverse_eq_iff, trimStart]
  rw [flip, trimStart_eq_self_iff, List.head?_reverse]

end Text

end CheckoutLint
