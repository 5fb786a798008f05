import CheckoutLint.Shell.Arithmetic

/-!
Setting variables: to a value, to a value behind the one that is there, or to a list.
-/

namespace CheckoutLint.Shell.Assignment

/-- The number of an element, given the text of its index. A negative one counts from the end. -/
def numberOf (held : Variable) (name index : Text) : Sh Nat := do
  let n ← Arithmetic.value index
  let n := if n < 0 then n + (held.list.nextNumber : Nat) else n
  if n < 0 then fail (name ++ '[' :: index ++ "]: bad array subscript".toList)
  return n.toNat

/-- Sets a variable to a value, or puts the value behind the one that it has. -/
def setValue (name : Text) (appends : Bool) (value : Text) : Sh Unit :=
  changeVariable name fun held =>
    held.withText (if appends then (held.text?.getD []) ++ value else value)

/-- Sets an element of a list, or puts a value behind the one that it has. -/
def setElement (name index : Text) (appends : Bool) (value : Text) : Sh Unit := do
  let held := ((← get).bound? name).getD {}
  let number ← numberOf held name index
  let old := if appends then (held.list.lookup number).getD [] else []
  changeVariable name fun held =>
    { held with items := some (held.list.insert number (old ++ value)) }

/-- Sets a variable to a list, or puts elements behind those that it has. -/
def setList (name : Text) (appends : Bool) (values : List Text) : Sh Unit :=
  changeVariable name fun held =>
    let before : Items := if appends then held.list else []
    { held with items := some (before.append values), value := none }

end CheckoutLint.Shell.Assignment
