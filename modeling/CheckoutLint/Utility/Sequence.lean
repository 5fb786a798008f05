import CheckoutLint.Utility.Quantity

/-!
The utility that writes the whole numbers from one to another.
-/

namespace CheckoutLint.Utility.Sequence

/-- How many steps it takes to stay between two numbers. -/
def length (first step last : Int) : Nat :=
  if 0 < step then ((last - first) / step + 1).toNat
  else ((first - last) / -step + 1).toNat

/-- The numbers from one to another, a step apart. -/
def numbers (first step last : Int) : List Int :=
  (List.range (length first step last)).map fun n : Nat => first + n * step

/-- Writes the numbers from one to another. -/
def seq : Work Unit := do
  let manner : Options.Manner := { valued := "s", stops := true }
  let isNumber (argument : Text) : Bool := (Quantity.readSigned? argument).isSome
  let arguments := (← get).call.arguments
  let back := (arguments.reverse.takeWhile isNumber).reverse
  let taken ← manner.take (arguments.take (arguments.length - back.length))
  let operands := taken.operands ++ back
  if let some extra := operands[3]? then
    misuse 1 ("extra operand ".toList ++ Shown.exactly extra)
  let given ← operands.mapM fun operand =>
    match Quantity.readSigned? operand with
    | some n => pure n
    | none => misuse 1 ("invalid floating point argument: ".toList ++ Shown.exactly operand)
  let (first, step, last) ←
    match given with
    | [] => misuse 1 "missing operand".toList
    | [last] => pure (1, 1, last)
    | [first, last] => pure (first, 1, last)
    | first :: step :: last :: _ => pure (first, step, last)
  if step = 0 then
    misuse 1 ("invalid Zero increment value: ".toList ++ Shown.exactly (operands[1]?.getD []))
  let texts := (numbers first step last).map Text.ofInt
  let separator := (taken.value? 's').getD ['\n']
  for (text, n) in texts.zipIdx do put (if n = 0 then text else separator ++ text)
  unless texts.isEmpty do put ['\n']

end CheckoutLint.Utility.Sequence
