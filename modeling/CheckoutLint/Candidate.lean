import CheckoutLint.Text.Basic

/-!
Files offered to the checkers. A candidate is known by its path in the checkout, which every warning
names; its temp path is where a copy of it is put when a checker needs one.

Main statement:

* `baseName_append_slash`: the base name is what follows the last slash.
-/

namespace CheckoutLint

/-- What a checker wants done to a file before it looks at it. -/
structure Needs where
  /-- A copy of the file at its temp path. -/
  localCopy : Bool := false
  /-- The text of the file. -/
  contents : Bool := false
  deriving DecidableEq, Repr

/-- A file of the checkout, as it is offered to a checker. -/
structure Candidate where
  /-- Where a copy is put; unique within one run. -/
  tempPath : Text
  /-- The path relative to the root of the checkout. -/
  path : Text
  /-- The file name, without the directories. -/
  baseName : Text
  /-- The text of the file, once it has been read. -/
  contents : Option Text := none
  /-- What the checker that accepted the file needs. -/
  needs : Needs := {}
  deriving DecidableEq, Repr

/-- The part of a path after its last slash. -/
def baseName (path : Text) : Text := (path.reverse.takeWhile (· ≠ '/')).reverse

theorem takeWhile_reverse_of_not_mem {name rest : Text} (h : '/' ∉ name) :
    (name.reverse ++ rest).takeWhile (· ≠ '/') = name.reverse ++ rest.takeWhile (· ≠ '/') :=
  List.takeWhile_append_of_pos fun c mem => by
    have : c ≠ '/' := fun eq => h (eq ▸ List.mem_reverse.1 mem)
    simpa using this

/-- The base name is what stands behind the last slash. -/
theorem baseName_append_slash (directory : Text) {name : Text} (h : '/' ∉ name) :
    baseName (directory ++ '/' :: name) = name := by
  have flip : (directory ++ '/' :: name).reverse = name.reverse ++ '/' :: directory.reverse := by
    simp
  rw [baseName, flip, takeWhile_reverse_of_not_mem h]
  simp

theorem baseName_eq_self {name : Text} (h : '/' ∉ name) : baseName name = name := by
  rw [baseName, ← List.append_nil name.reverse, takeWhile_reverse_of_not_mem h]
  simp

namespace Candidate

/-- A fresh candidate: nothing read, nothing needed yet. -/
def ofPaths (tempPath path : Text) : Candidate :=
  ⟨tempPath, path, CheckoutLint.baseName path, none, {}⟩

/-- The text of the file; empty if it has not been read. -/
def text (file : Candidate) : Text := file.contents.getD []

end Candidate

end CheckoutLint
