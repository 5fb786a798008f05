import CheckoutLint.Acronym
import CheckoutLint.VariableTypo

/-!
The scans for acronyms and for misspelled variables, on the bytes of a file as they are stored. A
line ends at the byte 10, which is dropped together with one byte 13 right before it; the six blanks
and the bytes of names are those of ASCII, and a byte above 127 is neither.

* `length_lt_of_cutReference`, `length_le_of_cutAcronym`: what is cut off makes the bytes fewer.
-/

namespace CheckoutLint.Octets

/-! ## Bytes and lines -/

/-- The bytes of the six blanks of ASCII. -/
def isBlank (b : UInt8) : Bool := (9 ≤ b.toNat && b.toNat ≤ 13) || b.toNat = 32

/-- The bytes that go on a name: ASCII letters and digits, and the underscore. -/
def isNameByte (b : UInt8) : Bool :=
  (48 ≤ b.toNat && b.toNat ≤ 57) || (65 ≤ b.toNat && b.toNat ≤ 90) ||
    (97 ≤ b.toNat && b.toNat ≤ 122) || b.toNat = 95

/-- The lines of a file, without their ends. -/
def lines : List UInt8 → List (List UInt8)
  | [] => []
  | 0x0A :: bytes => [] :: lines bytes
  | 0x0D :: 0x0A :: bytes => [] :: lines bytes
  | b :: bytes =>
    match lines bytes with
    | [] => [[b]]
    | line :: rest => (b :: line) :: rest

/-- A byte that ends no line belongs to the first one. -/
theorem lines_cons_of_not_end {b : UInt8} {bytes : List UInt8} (hn : b ≠ 0x0A)
    (hr : b = 0x0D → bytes.head? ≠ some 0x0A) :
    lines (b :: bytes) = match lines bytes with
      | [] => [[b]]
      | line :: rest => (b :: line) :: rest := by
  rw [lines.eq_def]
  split <;> simp_all

/-- What follows a word of ASCII characters in the bytes, if they begin with it. -/
def dropStart? : (word : Text) → List UInt8 → Option (List UInt8)
  | [], bytes => some bytes
  | _ :: _, [] => none
  | c :: word, b :: bytes => if c.toNat = b.toNat then dropStart? word bytes else none

/-- A word takes as many bytes as it has characters. -/
theorem length_of_dropStart {word : Text} {bytes rest : List UInt8}
    (h : dropStart? word bytes = some rest) : word.length + rest.length = bytes.length := by
  induction word generalizing bytes with
  | nil => simp_all [dropStart?]
  | cons c word ih =>
    cases bytes with
    | nil => simp [dropStart?] at h
    | cons b bytes =>
      rw [dropStart?] at h
      split at h
      · have := ih h
        simp only [List.length_cons]
        omega
      · cases h

/-! ## Acronyms -/

/-- What follows the end of a word: nothing, or what stands behind one blank. -/
def afterWord? : List UInt8 → Option (List UInt8)
  | [] => some []
  | b :: bytes => if isBlank b then some bytes else none

/-- Cuts an acronym and the end of its word off the front of the bytes. -/
def cutAcronym? (bytes : List UInt8) : Option (Acronym × List UInt8) :=
  Acronym.all.findSome? fun acronym =>
    ((dropStart? acronym.written bytes).bind afterWord?).map (acronym, ·)

theorem length_le_of_afterWord {bytes rest : List UInt8} (h : afterWord? bytes = some rest) :
    rest.length ≤ bytes.length := by
  cases bytes with
  | nil => simp_all [afterWord?]
  | cons b bytes =>
    rw [afterWord?] at h
    split at h
    · obtain rfl := Option.some.inj h
      simp
    · cases h

theorem length_le_of_cutAcronym {bytes rest : List UInt8} {acronym : Acronym}
    (h : cutAcronym? bytes = some (acronym, rest)) : rest.length ≤ bytes.length := by
  obtain ⟨found, mem, eq⟩ := List.exists_of_findSome?_eq_some h
  obtain ⟨left, cut, eq⟩ := Option.map_eq_some_iff.1 eq
  obtain ⟨rfl, rfl⟩ := Prod.mk.inj eq
  obtain ⟨ending, start, cut⟩ := Option.bind_eq_some_iff.1 cut
  have word := length_of_dropStart start
  have after := length_le_of_afterWord cut
  omega

/-- The acronyms in the rest of a line: each has a blank before it. -/
def acronymsInRest : List UInt8 → List Acronym
  | [] => []
  | b :: bytes =>
    if isBlank b then
      match _cut : cutAcronym? bytes with
      | some (acronym, rest) => acronym :: acronymsInRest rest
      | none => acronymsInRest bytes
    else acronymsInRest bytes
termination_by bytes => bytes.length
decreasing_by
  · have := length_le_of_cutAcronym _cut
    simp only [List.length_cons]
    omega
  · simp
  · simp

/-- The acronyms in a line, from left to right. -/
def acronyms (line : List UInt8) : List Acronym :=
  match cutAcronym? line with
  | some (acronym, rest) => acronym :: acronymsInRest rest
  | none => acronymsInRest line

/-- Behind a byte that is no blank the search goes on for the next one. -/
theorem acronymsInRest_cons (b : UInt8) (bytes : List UInt8) :
    acronymsInRest (b :: bytes) = if isBlank b then acronyms bytes else acronymsInRest bytes := by
  rw [acronymsInRest, acronyms]
  split
  · split <;> simp_all
  · rfl

/-- The warnings for acronyms in the bytes of a file, line by line. -/
def acronymWarnings (path : Text) (bytes : List UInt8) : List Text :=
  ((lines bytes).zipIdx 1).flatMap fun (line, number) =>
    (acronyms line).map (Acronym.warning path number)

/-! ## Misspelled variables -/

/-- Whether a name ends before these bytes. -/
def endsName : List UInt8 → Bool
  | [] => true
  | b :: _ => !isNameByte b

/-- Cuts a reference to this variable off the front of the bytes; gives it as it is written. -/
def cutReferenceTo? (typo : VariableTypo) (bytes : List UInt8) : Option (Text × List UInt8) :=
  match (dropStart? typo.bare bytes).filter endsName with
  | some rest => some (typo.bare, rest)
  | none => (dropStart? typo.braced bytes).map (typo.braced, ·)

/-- Cuts a reference to some misspelled variable off the front of the bytes. -/
def cutReference? (bytes : List UInt8) : Option (VariableTypo.Reference × List UInt8) :=
  VariableTypo.all.findSome? fun typo =>
    (cutReferenceTo? typo bytes).map fun (written, rest) => (⟨written, typo⟩, rest)

theorem length_lt_of_cutReferenceTo {typo : VariableTypo} {bytes rest : List UInt8} {written : Text}
    (h : cutReferenceTo? typo bytes = some (written, rest)) : rest.length < bytes.length := by
  rw [cutReferenceTo?] at h
  split at h
  · rename_i left eq
    obtain ⟨rfl, rfl⟩ := Prod.mk.inj (Option.some.inj h)
    have word := length_of_dropStart (Option.filter_eq_some_iff.1 eq).1
    simp only [VariableTypo.bare, List.length_cons] at word
    omega
  · obtain ⟨left, start, eq⟩ := Option.map_eq_some_iff.1 h
    obtain ⟨rfl, rfl⟩ := Prod.mk.inj eq
    have word := length_of_dropStart start
    simp only [VariableTypo.braced, List.length_append] at word
    have mark : 0 < "$\x7b".toList.length := by decide
    omega

theorem length_lt_of_cutReference {bytes rest : List UInt8} {reference : VariableTypo.Reference}
    (h : cutReference? bytes = some (reference, rest)) : rest.length < bytes.length := by
  obtain ⟨typo, mem, eq⟩ := List.exists_of_findSome?_eq_some h
  obtain ⟨⟨written, left⟩, cut, eq⟩ := Option.map_eq_some_iff.1 eq
  obtain ⟨rfl, rfl⟩ := Prod.mk.inj eq
  exact length_lt_of_cutReferenceTo cut

/-- The references to misspelled variables in a line, from left to right. -/
def references : List UInt8 → List VariableTypo.Reference
  | [] => []
  | b :: bytes =>
    match _cut : cutReference? (b :: bytes) with
    | some (reference, rest) => reference :: references rest
    | none => references bytes
termination_by bytes => bytes.length
decreasing_by
  · exact length_lt_of_cutReference _cut
  · simp

/-- Behind a reference the search goes on where it ends. -/
theorem references_of_cut {bytes rest : List UInt8} {reference : VariableTypo.Reference}
    (h : cutReference? bytes = some (reference, rest)) :
    references bytes = reference :: references rest := by
  cases bytes with
  | nil => exact absurd (length_lt_of_cutReference h) (by simp)
  | cons b bytes =>
    rw [references]
    split <;> simp_all

theorem references_of_not_cut {b : UInt8} {bytes : List UInt8}
    (h : cutReference? (b :: bytes) = none) : references (b :: bytes) = references bytes := by
  rw [references]
  split <;> simp_all

/-- The warnings for misspelled variables in the bytes of a file, line by line. -/
def variableWarnings (path : Text) (bytes : List UInt8) : List Text :=
  ((lines bytes).zipIdx 1).flatMap fun (line, number) =>
    (references line).map (VariableTypo.warning path number)

end CheckoutLint.Octets
