import CheckoutLint.Text.Basic

/-!
The elements of lists, each with its number. There may be gaps between the numbers.

Main statement:

* `Items.lookup_insert`: setting an element changes that one and no other.
-/

namespace CheckoutLint.Shell

/-- The elements of a list with their numbers, in order. -/
abbrev Items := List (Nat × Text)

namespace Items

/-- The values, in order. -/
def values (items : Items) : List Text := items.map (·.2)

/-- A list with an element set. -/
def insert (number : Nat) (value : Text) : Items → Items
  | [] => [(number, value)]
  | entry :: rest =>
    if number < entry.1 then (number, value) :: entry :: rest
    else if number = entry.1 then (number, value) :: rest
    else entry :: insert number value rest

/-- An element that has been set has its new value, and the others have theirs. -/
theorem lookup_insert (number other : Nat) (value : Text) (items : Items) :
    (insert number value items).lookup other =
      if other = number then some value else items.lookup other := by
  induction items with
  | nil => by_cases same : other = number <;> simp [insert, same]
  | cons entry rest ih =>
    by_cases same : other = number
    · subst same
      rw [if_pos rfl] at ih ⊢
      rw [insert]
      split
      · simp
      · split
        · simp
        · rename_i different
          rw [List.lookup_cons, beq_eq_false_iff_ne.2 different]
          exact ih
    · have differ : (other == number) = false := beq_eq_false_iff_ne.2 same
      rw [if_neg same] at ih ⊢
      obtain ⟨key, held⟩ := entry
      rw [insert]
      split
      · rw [List.lookup_cons, differ]
      · split
        · rename_i replaced
          subst replaced
          simp only [List.lookup_cons, differ]
        · simp only [List.lookup_cons, ih]

/-- The number behind all others. -/
def nextNumber (items : Items) : Nat := ((items.getLast?).map fun entry => entry.1 + 1).getD 0

/-- A list with values behind its elements. -/
def append (items : Items) (values : List Text) : Items :=
  items ++ values.zipIdx.map fun (value, n) => (items.nextNumber + n, value)

end Items

end CheckoutLint.Shell
