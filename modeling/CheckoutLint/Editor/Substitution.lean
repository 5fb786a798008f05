import CheckoutLint.Regex.Basic

/-!
Putting something in place of what an expression matches. The replacement is made of texts and of
what groups have matched.
-/

namespace CheckoutLint.Editor

open Regex (Spot)

/-- A part of what is put in place of a match. -/
inductive Piece where
  | text (text : Text)
  /-- What a group has matched; the whole match for zero. -/
  | group (number : Nat)
  deriving DecidableEq, Repr

/-- What is put in place of a match. -/
abbrev Replacement := List Piece

namespace Replacement

/-- The text of a replacement, given what the groups are. -/
def expand (groups : Nat → Text) (replacement : Replacement) : Text :=
  replacement.flatMap fun piece =>
    match piece with
    | .text text => text
    | .group number => groups number

/-- The greatest number of a group in a replacement. -/
def greatest (replacement : Replacement) : Nat :=
  replacement.foldl (fun n piece =>
    match piece with
    | .group number => max n number
    | .text _ => n) 0

end Replacement

/-- An expression that is looked for, with how it is matched. -/
structure Sought where
  regex : Regex
  manner : Regex.Manner
  deriving DecidableEq, Repr

/-- The first match at or behind a spot. -/
def Sought.find? (sought : Sought) (spot : Spot) : Option (Spot × Spot) :=
  Regex.find? sought.manner sought.regex { spot with groups := [] }

/-- A replacement of matches. -/
structure Substitution where
  sought : Sought
  replacement : Replacement
  /-- The number of the first match that is replaced, and whether those behind it are too. -/
  first : Nat
  all : Bool
  /-- Whether the line is written if something was replaced. -/
  prints : Bool
  deriving DecidableEq, Repr

namespace Substitution

/-- Whether the match of a number is replaced. -/
def takes (substitution : Substitution) (number : Nat) : Bool :=
  number = substitution.first || substitution.all && substitution.first < number

/-- Replaces matches behind a spot, given how many there have been and where the last one has ended;
gives the text behind the spot, and whether something has been replaced. An empty match right behind
another one does not count. Takes at most `fuel` steps. -/
def applyFrom (substitution : Substitution) (fuel number : Nat) (lastEnd : Option Nat)
    (spot : Spot) : Text × Bool :=
  match fuel, substitution.sought.find? spot with
  | fuel + 1, some (start, finish) =>
    let gap := spot.textTo start
    let isEmpty := start.position = finish.position
    if isEmpty && lastEnd = some start.position then
      match start.rest with
      | [] => (gap, false)
      | c :: _ =>
        let (rest, isChanged) := substitution.applyFrom fuel number none (start.skip 1)
        (gap ++ c :: rest, isChanged)
    else
      let matched := start.textTo finish
      let groups (number : Nat) : Text := if number = 0 then matched else finish.groupText number
      let takes := substitution.takes (number + 1)
      let put := if takes then substitution.replacement.expand groups else matched
      if takes && !substitution.all then (gap ++ put ++ finish.rest, true)
      else
        let copied := if isEmpty then finish.rest.take 1 else []
        if isEmpty && finish.rest.isEmpty then (gap ++ put, takes)
        else
          let next := if isEmpty then finish.skip 1 else finish
          let (rest, isChanged) := substitution.applyFrom fuel (number + 1)
            (if isEmpty then none else some finish.position) next
          (gap ++ put ++ copied ++ rest, takes || isChanged)
  | _, _ => (spot.rest, false)

/-- Replaces matches in a text; gives the new text, and whether something has been replaced. -/
def apply (substitution : Substitution) (text : Text) : Text × Bool :=
  substitution.applyFrom (2 * text.length + 2) 0 none { rest := text }

end Substitution

end CheckoutLint.Editor
