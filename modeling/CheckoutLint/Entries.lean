/-!
Lists of entries, each of them a key with a value; the first entry of a key counts.

Main statements:

* `Entries.lookup_set`: setting a value changes that of its key and no other.
* `Entries.lookup_erase`: erasing takes one key away and no other.
-/

namespace CheckoutLint.Entries

variable {κ ν : Type} [BEq κ]

/-- Entries with a value under a key, in place of what was there; a new one comes last. -/
def set (key : κ) (value : ν) : List (κ × ν) → List (κ × ν)
  | [] => [(key, value)]
  | entry :: entries =>
    if key == entry.1 then (key, value) :: entries else entry :: set key value entries

/-- Entries without a key. -/
def erase (key : κ) (entries : List (κ × ν)) : List (κ × ν) :=
  entries.filter fun entry => !(key == entry.1)

variable [LawfulBEq κ]

/-- Entries with a value set hold that, and all others as before. -/
theorem lookup_set (key other : κ) (value : ν) (entries : List (κ × ν)) :
    (set key value entries).lookup other =
      if other == key then some value else entries.lookup other := by
  induction entries with
  | nil => cases h : other == key <;> simp [set, List.lookup_cons, h]
  | cons entry entries ih =>
    obtain ⟨held, old⟩ := entry
    rw [set]
    by_cases same : key = held
    · subst same
      cases h : other == key <;> simp [List.lookup_cons, h]
    · rw [if_neg (by simpa using same)]
      simp only [List.lookup_cons, ih]
      by_cases first : other = held
      · subst first
        simp [Ne.symm same]
      · simp [beq_eq_false_iff_ne.2 first]

/-- Entries without a key hold all others as before. -/
theorem lookup_erase (key other : κ) (entries : List (κ × ν)) :
    (erase key entries).lookup other =
      if other == key then none else entries.lookup other := by
  induction entries with
  | nil => simp [erase]
  | cons entry entries ih =>
    obtain ⟨held, value⟩ := entry
    simp only [erase] at ih
    by_cases same : key = held
    · subst same
      simp only [erase, List.filter_cons, beq_self_eq_true, Bool.not_true, Bool.false_eq_true,
        if_false, ih]
      by_cases first : other = key
      · simp [first]
      · simp [List.lookup_cons, beq_eq_false_iff_ne.2 first]
    · simp only [erase, List.filter_cons, beq_eq_false_iff_ne.2 same, Bool.not_false, if_true,
        List.lookup_cons, ih]
      by_cases first : other = held
      · subst first
        simp [Ne.symm same]
      · simp [beq_eq_false_iff_ne.2 first]

end CheckoutLint.Entries
