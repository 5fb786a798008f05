import CheckoutLint.Text.Basic

/-!
Regular expressions with groups and references to them, and how they match: the match that begins
first is found, and of those that begin there the longest; parts further left take as much as they
can.
-/

namespace CheckoutLint

/-- Characters, given by ranges, or all others. -/
structure CharSet where
  negated : Bool := false
  ranges : List (Char × Char)
  deriving DecidableEq, Repr

namespace CharSet

/-- The set of one character. -/
def single (c : Char) : CharSet := { ranges := [(c, c)] }

/-- The set of all characters. -/
def all : CharSet := { negated := true, ranges := [] }

/-- Whether a character is in one of the ranges. -/
def inRanges (ranges : List (Char × Char)) (c : Char) : Bool :=
  ranges.any fun (low, high) => low ≤ c && c ≤ high

/-- Whether a character is in a set, its case left aside if so wanted. -/
def holds (set : CharSet) (ignoreCase : Bool) (c : Char) : Bool :=
  let found := inRanges set.ranges c ||
    ignoreCase && (inRanges set.ranges c.toLower || inRanges set.ranges c.toUpper)
  found != set.negated

end CharSet

/-- Places that an expression can ask for. -/
inductive Edge where
  | lineStart
  | lineEnd
  | textStart
  | textEnd
  | wordStart
  | wordEnd
  | wordEdge
  | noWordEdge
  deriving DecidableEq, Repr

/-- A regular expression. -/
inductive Regex where
  | empty
  | one (set : CharSet)
  | both (first second : Regex)
  | either (first second : Regex)
  | repeated (least : Nat) (most : Option Nat) (inner : Regex)
  | group (number : Nat) (inner : Regex)
  /-- What a group has matched. -/
  | again (number : Nat)
  | edge (wanted : Edge)
  deriving DecidableEq, Repr

namespace Regex

/-- How an expression is matched. -/
structure Manner where
  ignoreCase : Bool := false
  /-- Whether lines inside of the text have ends of their own. -/
  inLines : Bool := false
  deriving DecidableEq, Repr

/-- A spot in a text: how far in, the character before it, what follows, and what groups have
matched up to there. -/
structure Spot where
  position : Nat := 0
  before : Option Char := none
  rest : Text
  groups : List (Nat × Text) := []
  deriving DecidableEq, Repr

namespace Spot

/-- The spot behind so many characters. -/
def skip (spot : Spot) : Nat → Spot
  | 0 => spot
  | count + 1 =>
    match spot.rest with
    | [] => spot
    | c :: rest =>
      skip { spot with position := spot.position + 1, before := some c, rest } count

/-- What stands between two spots of a text. -/
def textTo (spot other : Spot) : Text := spot.rest.take (other.position - spot.position)

/-- What a group has matched; nothing if it has not matched. -/
def groupText (spot : Spot) (number : Nat) : Text := (spot.groups.lookup number).getD []

end Spot

/-- Whether a character is part of words. -/
def isWordChar (c : Char) : Bool := c.isAlphanum || c = '_'

/-- Whether a spot is one that an expression asks for. -/
def isAt (manner : Manner) (spot : Spot) (edge : Edge) : Bool :=
  let inWord := spot.before.any isWordChar
  let beforeWord := spot.rest.head?.any isWordChar
  match edge with
  | .lineStart => spot.before.all fun c => manner.inLines && c = '\n'
  | .lineEnd => spot.rest.head?.all fun c => manner.inLines && c = '\n'
  | .textStart => spot.before.isNone
  | .textEnd => spot.rest.isEmpty
  | .wordStart => !inWord && beforeWord
  | .wordEnd => inWord && !beforeWord
  | .wordEdge => inWord != beforeWord
  | .noWordEdge => inWord == beforeWord

/-- Spots in order, the furthest first; of several at a position only the first one is kept. -/
def gather (spots : List Spot) : List Spot :=
  let rec distinct : List Spot → List Spot
    | a :: b :: rest =>
      if a.position = b.position then distinct (a :: rest) else a :: distinct (b :: rest)
    | rest => rest
  termination_by spots => spots.length
  distinct (spots.mergeSort fun a b => b.position ≤ a.position)

/-- The spots behind up to so many characters of a set, the furthest first, given the spots before
them. -/
def runSpots (manner : Manner) (set : CharSet) (spot : Spot) (found : List Spot) :
    Option Nat → Text → List Spot
  | some 0, _ | _, [] => spot :: found
  | most, c :: rest =>
    if set.holds manner.ignoreCase c then
      let next := { spot with position := spot.position + 1, before := some c, rest }
      runSpots manner set next (spot :: found) (most.map (· - 1)) rest
    else spot :: found

/-- The spots that steps lead to from some others, given those found before. -/
def closure (step : Spot → List Spot) (fuel : Nat) (frontier found : List Spot) : List Spot :=
  match fuel, frontier with
  | fuel + 1, _ :: _ =>
    let next := (gather (frontier.flatMap step)).filter fun spot =>
      !found.any fun other => other.position = spot.position
    closure step fuel next (found ++ next)
  | _, _ => found

/-- The spots that a number of steps leads to. -/
def power (step : Spot → List Spot) : Nat → List Spot → List Spot
  | 0, spots => spots
  | count + 1, spots => power step count (gather (spots.flatMap step))

/-- The spots behind the matches of an expression that begin at a spot, the furthest first. -/
def ends (manner : Manner) : Regex → Spot → List Spot
  | .empty, spot => [spot]
  | .one set, spot =>
    match spot.rest with
    | c :: _ => if set.holds manner.ignoreCase c then [spot.skip 1] else []
    | [] => []
  | .both first second, spot => gather ((ends manner first spot).flatMap (ends manner second))
  | .either first second, spot => gather (ends manner first spot ++ ends manner second spot)
  | .repeated least most (.one set), spot =>
    let spots := runSpots manner set spot [] most spot.rest
    spots.take (spots.length - least)
  | .repeated least most inner, spot =>
    let spots := power (ends manner inner) least [spot]
    let fuel := (most.map (· - least)).getD (spot.rest.length + 1)
    gather (closure (ends manner inner) fuel spots spots)
  | .group number inner, spot =>
    (ends manner inner spot).map fun behind =>
      { behind with groups := (number, spot.textTo behind) ::
          behind.groups.filter fun group => group.1 != number }
  | .again number, spot =>
    match spot.groups.lookup number with
    | none => []
    | some text =>
      let here := spot.rest.take text.length
      let isSame := here == text ||
        manner.ignoreCase && here.map Char.toLower == text.map Char.toLower
      if isSame then [spot.skip text.length] else []
  | .edge wanted, spot => if isAt manner spot wanted then [spot] else []

/-- The first spot from which on something is found, and where that ends, given what is found right
at a spot. -/
def firstFrom? (endAt? : Spot → Option Spot) (spot : Spot) : Text → Option (Spot × Spot)
  | [] => (endAt? { spot with rest := [] }).map ({ spot with rest := [] }, ·)
  | c :: rest =>
    let here := { spot with rest := c :: rest }
    match endAt? here with
    | some behind => some (here, behind)
    | none =>
      firstFrom? endAt? { spot with position := spot.position + 1, before := some c, rest } rest

/-- The first match at or behind a spot: where it begins and ends. -/
def find? (manner : Manner) (regex : Regex) (spot : Spot) : Option (Spot × Spot) :=
  firstFrom? (fun here => (ends manner regex here).head?) spot spot.rest

/-- Whether an expression matches somewhere in a text. -/
def occursIn (manner : Manner) (regex : Regex) (text : Text) : Bool :=
  (find? manner regex { rest := text }).isSome

/-- The greatest number of a group of an expression. -/
def groupCount : Regex → Nat
  | .both first second | .either first second => max first.groupCount second.groupCount
  | .repeated _ _ inner => inner.groupCount
  | .group number inner => max number inner.groupCount
  | _ => 0

end Regex

end CheckoutLint
