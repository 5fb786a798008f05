import CheckoutLint.Text.Basic

/-!
JSON values and their text in an indented layout: two spaces for each level, a member or an item on
a line of its own, and nothing between the brackets of an empty list or object.
-/

namespace CheckoutLint

/-- JSON values without numbers and without null. -/
inductive Json where
  | bool (value : Bool)
  | string (text : Text)
  | array (items : List Json)
  | object (members : List (Text × Json))

namespace Json

/-! ## Strings -/

/-- A digit of a number below sixteen, in lower case. -/
def hexDigit (n : Nat) : Char := Nat.digitChar n

/-- A character as it is written inside a string. -/
def escape (c : Char) : Text :=
  if c = '"' then "\\\"".toList
  else if c = '\\' then "\\\\".toList
  else if c = '\x08' then "\\b".toList
  else if c = '\t' then "\\t".toList
  else if c = '\n' then "\\n".toList
  else if c = '\x0c' then "\\f".toList
  else if c = '\r' then "\\r".toList
  else if c < ' ' then "\\u00".toList ++ [hexDigit (c.toNat / 16), hexDigit (c.toNat % 16)]
  else [c]

/-- A string in quotation marks. -/
def quote (text : Text) : Text := '"' :: text.flatMap escape ++ ['"']

/-! ## Layout -/

/-- The start of a line at a depth. -/
def newline (depth : Nat) : Text := '\n' :: List.replicate (2 * depth) ' '

mutual

/-- The text of a value that stands at a depth. -/
def pretty (depth : Nat) : Json → Text
  | .bool true => "true".toList
  | .bool false => "false".toList
  | .string text => quote text
  | .array [] => "[]".toList
  | .array (item :: items) =>
    '[' :: newline (depth + 1) ++ pretty (depth + 1) item ++ prettyItems (depth + 1) items ++
      newline depth ++ [']']
  | .object [] => "\x7b\x7d".toList
  | .object ((key, value) :: members) =>
    '\x7b' :: newline (depth + 1) ++ quote key ++ ": ".toList ++ pretty (depth + 1) value ++
      prettyMembers (depth + 1) members ++ newline depth ++ ['\x7d']

/-- The items after the first of a list. -/
def prettyItems (depth : Nat) : List Json → Text
  | [] => []
  | item :: items => ',' :: newline depth ++ pretty depth item ++ prettyItems depth items

/-- The members after the first of an object. -/
def prettyMembers (depth : Nat) : List (Text × Json) → Text
  | [] => []
  | (key, value) :: members =>
    ',' :: newline depth ++ quote key ++ ": ".toList ++ pretty depth value ++
      prettyMembers depth members

end

/-- The text of a value. -/
def render (value : Json) : Text := pretty 0 value

end Json

end CheckoutLint
