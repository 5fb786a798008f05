import CheckoutLint.Text.Line
import CheckoutLint.Text.Blank

/-!
Acronyms written in lower case. An acronym is found where it stands between two ends: the start of
the line or one blank of ASCII before it, one blank or the end of the line after it. The blank after
a found acronym is consumed with it, so the search goes on behind that blank.

Main statement:

* `Acronym.cut?_eq_some`: what is cut off is an acronym of the dictionary up to a word end.
-/

namespace CheckoutLint

/-- An acronym: how it is written without care, and its canonical spelling. -/
structure Acronym where
  written : Text
  canonical : Text
  deriving DecidableEq, Repr

namespace Acronym

/-- The dictionary. -/
def all : List Acronym :=
  [⟨"ansi".toList, "ANSI".toList⟩, ⟨"bios".toList, "BIOS".toList⟩, ⟨"cgi".toList, "CGI".toList⟩,
    ⟨"dpi".toList, "DPI".toList⟩, ⟨"dsl".toList, "DSL".toList⟩, ⟨"gnu".toList, "GNU".toList⟩,
    ⟨"gui".toList, "GUI".toList⟩, ⟨"oop".toList, "OOP".toList⟩, ⟨"sql".toList, "SQL".toList⟩,
    ⟨"ssa".toList, "SSA".toList⟩]

/-! ## Scanning a line -/

/-- What follows the end of a word: nothing, or what stands behind one blank. -/
def afterWord? : Text → Option Text
  | [] => some []
  | c :: s => if isAsciiBlank c then some s else none

/-- Cuts an acronym and the end of its word off the front of the text. -/
def cut? (s : Text) : Option (Acronym × Text) :=
  all.findSome? fun acronym =>
    ((Text.dropStart? acronym.written s).bind afterWord?).map (acronym, ·)

theorem length_le_of_afterWord {s rest : Text} (h : afterWord? s = some rest) :
    rest.length ≤ s.length := by
  cases s with
  | nil => simp_all [afterWord?]
  | cons c s =>
    rw [afterWord?] at h
    split at h
    · obtain rfl := Option.some.inj h
      simp
    · simp at h

/-- What is cut off is an acronym of the table as it is written, up to the end of its run. -/
theorem cut?_eq_some {s rest : Text} {acronym : Acronym} (h : cut? s = some (acronym, rest)) :
    acronym ∈ all ∧ ∃ ending, s = acronym.written ++ ending ∧ afterWord? ending = some rest := by
  obtain ⟨found, mem, eq⟩ := List.exists_of_findSome?_eq_some h
  obtain ⟨left, cut, eq⟩ := Option.map_eq_some_iff.1 eq
  obtain ⟨rfl, rfl⟩ := Prod.mk.inj eq
  obtain ⟨ending, start, cut⟩ := Option.bind_eq_some_iff.1 cut
  exact ⟨mem, ending, Text.dropStart?_eq_some_iff.1 start, cut⟩

theorem length_le_of_cut {s rest : Text} {acronym : Acronym} (h : cut? s = some (acronym, rest)) :
    rest.length ≤ s.length := by
  obtain ⟨_, ending, rfl, cut⟩ := cut?_eq_some h
  have := length_le_of_afterWord cut
  simp only [List.length_append]
  omega

/-- The acronyms in the rest of a line, of which the start of the line is no part: each has a blank
before it. -/
def inRest : Text → List Acronym
  | [] => []
  | c :: s =>
    if isAsciiBlank c then
      match _cut : cut? s with
      | some (acronym, rest) => acronym :: inRest rest
      | none => inRest s
    else inRest s
termination_by s => s.length
decreasing_by
  · have := length_le_of_cut _cut
    simp only [List.length_cons]
    omega
  · simp
  · simp

/-- The acronyms in a line, from left to right. -/
def inLine (line : Text) : List Acronym :=
  match cut? line with
  | some (acronym, rest) => acronym :: inRest rest
  | none => inRest line

/-- Behind a blank the search goes on as at the start of a line. -/
theorem inRest_cons (c : Char) (s : Text) :
    inRest (c :: s) = if isAsciiBlank c then inLine s else inRest s := by
  rw [inRest, inLine]
  split
  · split <;> simp_all
  · rfl

/-! ## Warnings -/

/-- What is said of an acronym in a line of a file. -/
def warning (path : Text) (line : Nat) (acronym : Acronym) : Text :=
  path ++ ":".toList ++ Text.ofNat line ++ ": replace ".toList ++ acronym.written ++
    " with ".toList ++ acronym.canonical

/-- The warnings for the text of a file, line by line. -/
def warnings (path text : Text) : List Text :=
  ((Text.lines text).zipIdx 1).flatMap fun (line, number) =>
    (inLine line).map (warning path number)

end Acronym

end CheckoutLint
