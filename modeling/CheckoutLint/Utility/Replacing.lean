import CheckoutLint.Utility.Options

/-!
The utility that replaces characters one by one, deletes them, or keeps only one of those that are
repeated. Characters are listed as they are, in ranges, or by escapes.
-/

namespace CheckoutLint.Utility.Replacing

/-- The characters of a list with its escapes read. -/
def unescaped : Text → Text
  | '\\' :: 'n' :: rest => '\n' :: unescaped rest
  | '\\' :: 't' :: rest => '\t' :: unescaped rest
  | '\\' :: c :: rest => c :: unescaped rest
  | c :: rest => c :: unescaped rest
  | [] => []

/-- The characters of a list with its ranges written out. -/
def ranged : Text → Text
  | first :: '-' :: last :: rest =>
    ((List.range (last.toNat + 1)).drop first.toNat).map Char.ofNat ++ ranged rest
  | c :: rest => c :: ranged rest
  | [] => []

/-- The characters that a list means. -/
def read (list : Text) : Text := ranged (unescaped list)

/-- A text with its last character repeated up to a length. -/
def stretched (length : Nat) (text : Text) : Text :=
  match text.getLast? with
  | none => []
  | some c => text ++ List.replicate (length - text.length) c

/-- A text with only one of those characters of a set that are repeated. -/
def squeezed (set : Text) : (before : Option Char) → Text → Text
  | _, [] => []
  | before, c :: rest =>
    if before = some c && set.contains c then squeezed set before rest
    else c :: squeezed set (some c) rest

/-- Replaces, deletes or squeezes characters. -/
def tr : Work Unit := do
  let manner : Options.Manner := { flags := "ds", stops := true }
  let taken ← manner.ofCall
  match ← readInput ['-'], taken.operands with
  | .error cause, _ => fail 1 ("read error: ".toList ++ cause.reason)
  | _, [] => misuse 1 "missing operand".toList
  | .ok text, [list] =>
    let set := read list
    if taken.has 'd' then put (text.filter fun c => !set.contains c)
    else if taken.has 's' then put (squeezed set none text)
    else
      warn ("missing operand after ".toList ++ Shown.exactly list)
      report "Two strings must be given when translating.\n".toList
      hint
      exit 1
  | .ok text, list :: other :: _ =>
    let first := read list
    let second := read other
    let table := first.zip (stretched first.length second)
    let replaced := text.map fun c => (table.reverse.lookup c).getD c
    put (if taken.has 's' then squeezed second none replaced else replaced)

end CheckoutLint.Utility.Replacing
