import CheckoutLint.Utility.Quantity

/-!
The utility that cuts columns out of lines.
-/

namespace CheckoutLint.Utility.Columns

/-- A range of places, counted from one, that may go on without end. -/
structure Range where
  first : Nat
  last : Option Nat
  deriving DecidableEq, Repr

/-- Whether a place is in one of some ranges. -/
def within (ranges : List Range) (place : Nat) : Bool :=
  ranges.any fun range => range.first ≤ place && range.last.all (place ≤ ·)

/-- The range that a text is. -/
def Range.ofText? (text : Text) : Option Range :=
  match Text.splitAt '-' text with
  | [place] => (Quantity.read? place).map fun n => ⟨n, some n⟩
  | [[], last] => (Quantity.read? last).map fun n => ⟨1, some n⟩
  | [first, []] => (Quantity.read? first).map fun n => ⟨n, none⟩
  | [first, last] => do return ⟨← Quantity.read? first, some (← Quantity.read? last)⟩
  | _ => none

/-- What is left of a line: the fields between delimiters at the places, or without a delimiter the
characters there. A line without delimiter has no fields, and is left as it is. -/
def cutLine (delimiter : Option Char) (ranges : List Range) (line : Text) : Text :=
  let kept {α : Type} (parts : List α) : List α :=
    ((parts.zipIdx 1).filter fun (_, n) => within ranges n).map (·.1)
  match delimiter with
  | none => kept line
  | some mark =>
    let fields := Text.splitAt mark line
    if fields.length = 1 then line else Text.joinWith [mark] (kept fields)

/-- Cuts parts out of lines. -/
def cut : Work Unit := do
  let manner : Options.Manner := { valued := "bcdf" }
  let taken ← manner.ofCall
  let lists := taken.options.filter fun option => option.1 != 'd'
  match lists with
  | [(letter, list)] =>
    let refuse (range : Text) : Work Range :=
      misuse 1 ((if letter = 'f' then "invalid field value "
        else "invalid byte/character position ").toList ++ Shown.exactly range)
    let ranges ← (Text.splitAt ',' list).mapM fun text =>
      match Range.ofText? text with
      | some range => pure range
      | none => refuse text
    let delimiter := if letter = 'f' then some (((taken.value? 'd').getD []).headD '\t') else none
    eachInput taken.operands fun text => do
      for line in linesOf text do putLine (cutLine delimiter ranges line)
  | [] => misuse 1 "you must specify a list of bytes, characters, or fields".toList
  | _ => misuse 1 "only one list may be specified".toList

end CheckoutLint.Utility.Columns
