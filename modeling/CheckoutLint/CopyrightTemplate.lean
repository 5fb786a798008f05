import CheckoutLint.Text.Blank

/-!
License templates that were never filled in. Letters are compared without case, in ASCII only: the
words of the template hold no letter that another script folds to.

Main statement:

* `CopyrightTemplate.occursIn_append_left`, `CopyrightTemplate.occursIn_iff`: the template is
  searched at every position of the text.
-/

namespace CheckoutLint.CopyrightTemplate

/-- What follows `word` in the text, if the text begins with it in any case. The word is in lower
case. -/
def dropFolded? : (word s : Text) → Option Text
  | [], s => some s
  | _ :: _, [] => none
  | c :: word, d :: s => if d.toLower = c then dropFolded? word s else none

/-- The text behind the copyright mark, if there is one: a `c` in parentheses or the sign itself,
and the blanks after it. -/
def dropMark (s : Text) : Text :=
  match dropFolded? "(c)".toList s with
  | some rest => Text.trimStart rest
  | none =>
    match dropFolded? "©".toList s with
    | some rest => Text.trimStart rest
    | none => s

/-- The text behind a comma, if it begins with one. -/
def dropComma : Text → Text
  | ',' :: s => s
  | s => s

/-- Whether the text begins with the placeholders that stand for a year and a name. -/
def placeholdersAt (s : Text) : Bool :=
  match dropFolded? "year".toList s with
  | some rest => (dropFolded? "fullname".toList (Text.trimStart (dropComma rest))).isSome
  | none => false

/-- Whether the text begins with an unfilled copyright notice. -/
def noticeAt (s : Text) : Bool :=
  match dropFolded? "copyright ".toList s with
  | some rest => placeholdersAt (dropMark rest)
  | none => false

/-- Whether an unfilled copyright notice stands somewhere in the text. -/
def occursIn (s : Text) : Bool := Text.anyEnding noticeAt s

/-- A notice occurs just if the text has an end that begins with one. -/
theorem occursIn_iff {s : Text} :
    occursIn s = true ↔ ∃ before after, s = before ++ after ∧ noticeAt after = true :=
  Text.anyEnding_iff

/-- A notice still occurs with more in front of it. -/
theorem occursIn_append_left {s : Text} (before : Text) (h : occursIn s = true) :
    occursIn (before ++ s) = true := by
  obtain ⟨front, after, rfl, notice⟩ := occursIn_iff.1 h
  exact occursIn_iff.2 ⟨before ++ front, after, by simp, notice⟩

/-- What is said of a license that is still a template. -/
def warning (path : Text) : Text := path ++ ": license contains sloppy copyright".toList

end CheckoutLint.CopyrightTemplate
