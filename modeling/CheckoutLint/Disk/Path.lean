import CheckoutLint.Text.Utf8

/-!
Paths, in characters or in bytes. A slash parts names; empty names do not count, and a slash at the
end asks for a directory, as a dot behind it would.

Main statement:

* `Path.join_eq_slash`: a relative path is put behind that of a directory and one slash.
-/

namespace CheckoutLint

/-- Signs that paths are written in, and the two of them that have a meaning there. -/
class PathSign (σ : Type) where
  slash : σ
  dot : σ

instance : PathSign Char := ⟨'/', '.'⟩

instance : PathSign UInt8 := ⟨0x2F, 0x2E⟩

@[simp]
theorem PathSign.slash_char : (PathSign.slash : Char) = '/' := rfl

namespace Path

variable {σ : Type} [PathSign σ]

/-- The name by which a directory names itself. -/
abbrev self : List σ := [PathSign.dot]

/-- The name by which a directory names the one around it. -/
abbrev parent : List σ := [PathSign.dot, PathSign.dot]

variable [DecidableEq σ]

/-- Whether a path starts at the root. -/
def isAbsolute (path : List σ) : Bool := path.head? = some PathSign.slash

/-- The names that a path goes through. -/
def names (path : List σ) : List (List σ) :=
  (Text.splitAt PathSign.slash path).filter fun name => !name.isEmpty

/-- The steps of a path: its names, and a dot for a slash at the end. -/
def steps (path : List σ) : List (List σ) :=
  if path.getLast? = some PathSign.slash ∧ names path ≠ [] then names path ++ [self]
  else names path

/-- A path read from a directory: the path itself if it is absolute, else behind that of the
directory and a slash, which is not doubled. -/
def join (directory path : List σ) : List σ :=
  if isAbsolute path then path
  else
    match directory.getLast? with
    | none => path
    | some last =>
      if last = PathSign.slash then directory ++ path else directory ++ PathSign.slash :: path

/-- A path without slashes is relative. -/
theorem isAbsolute_of_slashless {path : List σ} (slashless : PathSign.slash ∉ path) :
    isAbsolute path = false := by
  cases path with
  | nil => rfl
  | cons c path =>
    have : c ≠ PathSign.slash := fun same => slashless (same ▸ List.mem_cons_self)
    simp [isAbsolute, this]

/-- A relative path stands behind a slash, unless there is one already. -/
theorem join_eq_slash {directory path : List σ} (h : isAbsolute path = false) {c : σ}
    (last : directory.getLast? = some c) (hc : c ≠ PathSign.slash) :
    join directory path = directory ++ PathSign.slash :: path := by
  rw [join, if_neg (by simp [h]), last]
  exact if_neg hc

end Path

end CheckoutLint
