import CheckoutLint.Text.Basic

/-!
Styles of a terminal. A styled text stands between the sequence that turns the style on and the one
that turns it off; without colour the text is written as it is.
-/

namespace CheckoutLint

/-- How a piece of a report is set off. -/
inductive Style where
  | bold
  | dimmed
  | red
  | green
  | yellow
  deriving DecidableEq, Repr

namespace Style

/-- The codes that turn a style on and off. -/
def codes : Style → Text × Text
  | .bold => ("1".toList, "0".toList)
  | .dimmed => ("2".toList, "0".toList)
  | .red => ("31".toList, "39".toList)
  | .green => ("32".toList, "39".toList)
  | .yellow => ("33".toList, "39".toList)

/-- The control sequence with a code. -/
def sequence (code : Text) : Text := "\x1b[".toList ++ code ++ "m".toList

/-- A text in a style, if there is colour. -/
def paint (color : Bool) (style : Style) (text : Text) : Text :=
  if color then sequence style.codes.1 ++ text ++ sequence style.codes.2 else text

end Style

end CheckoutLint
