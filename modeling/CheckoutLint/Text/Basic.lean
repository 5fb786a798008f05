/-!
Texts are lists of characters, so that a scan is a recursion on the data and a substring is an
infix. The module holds the two questions that every check asks of a text: whether a condition
holds of some ending of it, and whether another text occurs in it; the order in which texts are
listed; and how texts are cut, joined and made of numbers.

Main statements:

* `Text.anyEnding_iff`: a condition on endings is searched at every position.
* `Text.occursIn_iff`: `occursIn` decides the infix relation.
* `Text.dropStart?_eq_some_iff`: what begins with a text is that text and what follows it.
-/

namespace CheckoutLint

/-- A text, character by character. -/
abbrev Text := List Char

namespace Text

/-! ## Search -/

/-- Whether the condition holds of some ending of the text, the whole and the empty one included. -/
def anyEnding (holds : Text → Bool) : Text → Bool
  | [] => holds []
  | c :: s => holds (c :: s) || anyEnding holds s

/-- Whether `needle` stands somewhere in the text. -/
def occursIn (needle s : Text) : Bool :=
  anyEnding (fun ending => needle.isPrefixOf ending) s

/-- Some end of a text fulfils a condition just if the text can be split in front of it. -/
theorem anyEnding_iff {holds : Text → Bool} {s : Text} :
    anyEnding holds s = true ↔ ∃ before after, s = before ++ after ∧ holds after = true := by
  induction s with
  | nil =>
    constructor
    · exact fun h => ⟨[], [], rfl, h⟩
    · rintro ⟨before, after, split, h⟩
      obtain ⟨rfl, rfl⟩ := List.append_eq_nil_iff.1 split.symm
      exact h
  | cons c s ih =>
    rw [anyEnding, Bool.or_eq_true, ih]
    constructor
    · rintro (h | ⟨before, after, rfl, h⟩)
      · exact ⟨[], c :: s, rfl, h⟩
      · exact ⟨c :: before, after, rfl, h⟩
    · rintro ⟨before, after, split, h⟩
      cases before with
      | nil => exact .inl (split ▸ h)
      | cons d before =>
        obtain ⟨rfl, rfl⟩ := List.cons.inj split
        exact .inr ⟨before, after, rfl, h⟩

/-- A text occurs in another one just if it is an infix. -/
theorem occursIn_iff {needle s : Text} : occursIn needle s = true ↔ needle <:+: s := by
  rw [occursIn, anyEnding_iff]
  constructor
  · rintro ⟨before, after, rfl, h⟩
    obtain ⟨rest, rfl⟩ := List.isPrefixOf_iff_prefix.1 h
    exact ⟨before, rest, by simp⟩
  · rintro ⟨before, rest, rfl⟩
    exact ⟨before, needle ++ rest, by simp, List.isPrefixOf_iff_prefix.2 ⟨rest, rfl⟩⟩

/-! ## Cutting and joining -/

/-- What follows `start` in the text, if the text begins with it. -/
def dropStart? : (start s : Text) → Option Text
  | [], s => some s
  | _ :: _, [] => none
  | c :: start, d :: s => if c = d then dropStart? start s else none

/-- A start can be dropped just if the text begins with it. -/
theorem dropStart?_eq_some_iff {start s rest : Text} :
    dropStart? start s = some rest ↔ s = start ++ rest := by
  induction start generalizing s with
  | nil => simp [dropStart?]
  | cons c start ih =>
    cases s with
    | nil => simp [dropStart?]
    | cons d s =>
      by_cases h : c = d
      · simp [dropStart?, h, ih]
      · simp [dropStart?, h, Ne.symm h]

section

variable {σ : Type}

/-- The pieces between the occurrences of a mark; one more than there are occurrences. -/
def splitAt [DecidableEq σ] (mark : σ) : List σ → List (List σ)
  | [] => [[]]
  | c :: s =>
    if c = mark then [] :: splitAt mark s
    else
      match splitAt mark s with
      | [] => [[c]]
      | piece :: pieces => (c :: piece) :: pieces

/-- The pieces, with the glue between each two of them. -/
def joinWith (glue : List σ) : List (List σ) → List σ
  | [] => []
  | [piece] => piece
  | piece :: pieces => piece ++ glue ++ joinWith glue pieces

end

/-! ## Order -/

/-- Whether the text is the other one or stands before it, in the order of their characters. -/
def isAtMost (s t : Text) : Bool := !decide (t < s)

/-! ## Numerals -/

/-- The decimal numeral of a number. -/
def ofNat (n : Nat) : Text := Nat.toDigits 10 n

/-- The decimal numeral of a whole number, with a minus sign if it is negative. -/
def ofInt : Int → Text
  | .ofNat n => ofNat n
  | .negSucc n => '-' :: ofNat (n + 1)

end Text

end CheckoutLint
