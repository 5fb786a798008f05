import CheckoutLint.Text.Line

/-!
Misspelled environment variables. A reference is a dollar sign with the misspelled name behind it,
either in braces, or bare and followed by something that cannot go on a name.

Main statement:

* `VariableTypo.cut?_eq_some`: what is cut off is a reference to a variable of the table, as it is
  written in the text.
-/

namespace CheckoutLint

/-- A misspelling of a variable, and the variable that was meant. -/
structure VariableTypo where
  written : Text
  meant : Text
  deriving DecidableEq, Repr

namespace VariableTypo

/-- The known misspellings. -/
def all : List VariableTypo :=
  [⟨"PAHT".toList, "PATH".toList⟩, ⟨"HOEM".toList, "HOME".toList⟩,
    ⟨"GOPAHT".toList, "GOPATH".toList⟩, ⟨"JAAV_HOME".toList, "JAVA_HOME".toList⟩,
    ⟨"JAVA_HOEM".toList, "JAVA_HOME".toList⟩, ⟨"JAVE_HOME".toList, "JAVA_HOME".toList⟩,
    ⟨"CLASSPAHT".toList, "CLASSPATH".toList⟩, ⟨"CLASPATH".toList, "CLASSPATH".toList⟩]

/-! ## Scanning a line -/

/-- Characters that go on a name: ASCII letters and digits, and the underscore. -/
def isNameChar (c : Char) : Bool := c.isAlphanum || c = '_'

/-- Whether a name ends before this text. -/
def endsName : Text → Bool
  | [] => true
  | c :: _ => !isNameChar c

/-- The reference without braces. -/
def bare (typo : VariableTypo) : Text := '$' :: typo.written

/-- The reference in braces. -/
def braced (typo : VariableTypo) : Text := "$\x7b".toList ++ typo.written ++ "\x7d".toList

/-- Cuts a reference to this variable off the front of the text; gives it as it is written. -/
def cutOne? (typo : VariableTypo) (s : Text) : Option (Text × Text) :=
  match (Text.dropStart? typo.bare s).filter endsName with
  | some rest => some (typo.bare, rest)
  | none => (Text.dropStart? typo.braced s).map (typo.braced, ·)

/-- A reference to a misspelled variable, as it is written in the text. -/
structure Reference where
  written : Text
  typo : VariableTypo
  deriving DecidableEq, Repr

/-- Cuts a reference to some misspelled variable off the front of the text. -/
def cut? (s : Text) : Option (Reference × Text) :=
  all.findSome? fun typo => (typo.cutOne? s).map fun (written, rest) => (⟨written, typo⟩, rest)

/-- What is cut off is the bare form where the name ends, or the braced one. -/
theorem cutOne?_eq_some {typo : VariableTypo} {s written rest : Text}
    (h : typo.cutOne? s = some (written, rest)) :
    s = written ++ rest ∧ (written = typo.bare ∧ endsName rest = true ∨ written = typo.braced) := by
  rw [cutOne?] at h
  split at h
  · rename_i left eq
    obtain ⟨rfl, rfl⟩ := Prod.mk.inj (Option.some.inj h)
    obtain ⟨start, ends⟩ := Option.filter_eq_some_iff.1 eq
    exact ⟨Text.dropStart?_eq_some_iff.1 start, .inl ⟨rfl, ends⟩⟩
  · obtain ⟨left, start, eq⟩ := Option.map_eq_some_iff.1 h
    obtain ⟨rfl, rfl⟩ := Prod.mk.inj eq
    exact ⟨Text.dropStart?_eq_some_iff.1 start, .inr rfl⟩

/-- What is cut off is a reference to a variable of the table. -/
theorem cut?_eq_some {s rest : Text} {reference : Reference}
    (h : cut? s = some (reference, rest)) :
    reference.typo ∈ all ∧ s = reference.written ++ rest ∧
      (reference.written = reference.typo.bare ∧ endsName rest = true ∨
        reference.written = reference.typo.braced) := by
  obtain ⟨typo, mem, eq⟩ := List.exists_of_findSome?_eq_some h
  obtain ⟨⟨written, left⟩, cut, eq⟩ := Option.map_eq_some_iff.1 eq
  obtain ⟨rfl, rfl⟩ := Prod.mk.inj eq
  exact ⟨mem, cutOne?_eq_some cut⟩

theorem length_lt_of_cut {s rest : Text} {reference : Reference}
    (h : cut? s = some (reference, rest)) : rest.length < s.length := by
  obtain ⟨_, rfl, written⟩ := cut?_eq_some h
  have : 0 < reference.written.length := by
    rcases written with ⟨eq, _⟩ | eq <;> simp [eq, bare, braced]
  simp only [List.length_append]
  omega

/-- The references to misspelled variables in a line, from left to right. -/
def inLine : Text → List Reference
  | [] => []
  | c :: s =>
    match _cut : cut? (c :: s) with
    | some (reference, rest) => reference :: inLine rest
    | none => inLine s
termination_by s => s.length
decreasing_by
  · exact length_lt_of_cut _cut
  · simp

/-- Behind a reference the search goes on where it ends. -/
theorem inLine_of_cut {s rest : Text} {reference : Reference}
    (h : cut? s = some (reference, rest)) : inLine s = reference :: inLine rest := by
  cases s with
  | nil => exact absurd (length_lt_of_cut h) (by simp)
  | cons c s =>
    rw [inLine]
    split <;> simp_all

/-- Where there is no reference the search goes on with the next character. -/
theorem inLine_of_not_cut {c : Char} {s : Text} (h : cut? (c :: s) = none) :
    inLine (c :: s) = inLine s := by
  rw [inLine]
  split <;> simp_all

/-! ## Warnings -/

/-- What is said of a reference in a line of a file. -/
def warning (path : Text) (line : Nat) (reference : Reference) : Text :=
  path ++ ":".toList ++ Text.ofNat line ++ ": ".toList ++ reference.written ++
    " could be a misspelling of ".toList ++ reference.typo.meant

/-- The warnings for the text of a file, line by line. -/
def warnings (path text : Text) : List Text :=
  ((Text.lines text).zipIdx 1).flatMap fun (line, number) =>
    (inLine line).map (warning path number)

end VariableTypo

end CheckoutLint
