import CheckoutLint.Candidate
import CheckoutLint.Text.Utf8

/-!
The table that puts repository paths in place of temp paths. A temp path occurs in it once, with the
repository path of the last file that has it, and temp paths of more bytes come first. Restoring a
line goes from left to right; where temp paths begin, the first of the table is consumed, and what
is put in its place is not looked at again.

Main statements:

* `cut?_eq_some`: what is cut off is a temp path of the table.
* `restore_of_cut`, `restore_of_not_cut`: the two steps of restoring.
-/

namespace CheckoutLint

/-- Temp paths, none empty, each with the repository path it stands for. -/
structure PathTable where
  entries : List (Text × Text)
  temp_ne_nil : ∀ entry ∈ entries, entry.1 ≠ []

namespace PathTable

/-! ## Building -/

/-- The table without entries. -/
def empty : PathTable := ⟨[], by simp⟩

/-- Whether a temp path is tried before another: it has more bytes, or as many and stands first in
the order of texts. -/
def isTriedBefore (temp other : Text) : Bool :=
  if Text.byteLength temp = Text.byteLength other then Text.isAtMost temp other
  else Text.byteLength other < Text.byteLength temp

/-- Puts an entry behind those whose temp paths are tried before its own. -/
def place (temp path : Text) : List (Text × Text) → List (Text × Text)
  | [] => [(temp, path)]
  | entry :: entries =>
    if isTriedBefore entry.1 temp then entry :: place temp path entries
    else (temp, path) :: entry :: entries

/-- To place an entry adds just that entry. -/
theorem mem_place {temp path : Text} {entries : List (Text × Text)} {entry : Text × Text} :
    entry ∈ place temp path entries ↔ entry = (temp, path) ∨ entry ∈ entries := by
  induction entries with
  | nil => simp [place]
  | cons first entries ih =>
    rw [place]
    split
    · simp only [List.mem_cons, ih]
      exact or_left_comm
    · simp

/-- Adds an entry; an older one for the same temp path is dropped. -/
def insert (table : PathTable) (temp path : Text) (h : temp ≠ []) : PathTable where
  entries := place temp path (table.entries.filter fun entry => entry.1 ≠ temp)
  temp_ne_nil := by
    intro entry mem
    rcases mem_place.1 mem with rfl | mem
    · exact h
    · exact table.temp_ne_nil entry (List.mem_filter.1 mem).1

/-- Adds a file, unless its temp path is empty. -/
def insertFile (table : PathTable) (file : Candidate) : PathTable :=
  if h : file.tempPath = [] then table else table.insert file.tempPath file.path h

/-- The table of a list of files. -/
def ofCandidates (files : List Candidate) : PathTable := files.foldl insertFile empty

/-- The repository path that stands for a temp path. -/
def find? (table : PathTable) (temp : Text) : Option Text := table.entries.lookup temp

/-! ## Restoring -/

/-- Cuts the first temp path of the table that fits off the front of the text; gives the repository
path for it and the rest of the text. -/
def cut? (table : PathTable) (s : Text) : Option (Text × Text) :=
  table.entries.findSome? fun entry => (Text.dropStart? entry.1 s).map (entry.2, ·)

/-- What is cut off is a temp path of the table, for its path. -/
theorem cut?_eq_some {table : PathTable} {s path rest : Text}
    (h : table.cut? s = some (path, rest)) :
    ∃ temp, (temp, path) ∈ table.entries ∧ s = temp ++ rest := by
  obtain ⟨entry, mem, eq⟩ := List.exists_of_findSome?_eq_some h
  obtain ⟨found, cut, eq⟩ := Option.map_eq_some_iff.1 eq
  obtain ⟨rfl, rfl⟩ := Prod.mk.inj eq
  exact ⟨entry.1, mem, Text.dropStart?_eq_some_iff.1 cut⟩

theorem length_lt_of_cut {table : PathTable} {s path rest : Text}
    (h : table.cut? s = some (path, rest)) : rest.length < s.length := by
  obtain ⟨temp, mem, rfl⟩ := cut?_eq_some h
  have : 0 < temp.length := List.length_pos_iff.2 (table.temp_ne_nil _ mem)
  simp only [List.length_append]
  omega

/-- The line with repository paths in place of temp paths. -/
def restore (table : PathTable) : Text → Text
  | [] => []
  | c :: s =>
    match _cut : table.cut? (c :: s) with
    | some (path, rest) => path ++ restore table rest
    | none => c :: restore table s
termination_by s => s.length
decreasing_by
  · exact length_lt_of_cut _cut
  · simp

@[simp]
theorem restore_nil (table : PathTable) : table.restore [] = [] := by
  rw [restore]

/-- A temp path at the front is replaced, and what follows it is restored on its own. -/
theorem restore_of_cut {table : PathTable} {s path rest : Text}
    (h : table.cut? s = some (path, rest)) : table.restore s = path ++ table.restore rest := by
  cases s with
  | nil => exact absurd (length_lt_of_cut h) (by simp)
  | cons c s =>
    rw [restore]
    split <;> simp_all

/-- A character at which no temp path begins is kept. -/
theorem restore_of_not_cut {table : PathTable} {c : Char} {s : Text}
    (h : table.cut? (c :: s) = none) : table.restore (c :: s) = c :: table.restore s := by
  rw [restore]
  split <;> simp_all

end PathTable

end CheckoutLint
