import CheckoutLint.PathTable
import Mathlib.Data.List.Induction

/-!
What a table of temp paths holds. The files decide which pairs stand in it, and the bytes of the
temp paths decide their order up to ties; `IsArranged` says just that, and so describes every list
that a collection of the pairs in any order and a sort by length could give.

* `isArranged_ofCandidates`: the table of a list of files is arranged.
* `IsArranged.find?_eq_some_iff`: a table that is arranged finds the path of the last file.
-/

namespace CheckoutLint.PathTable

/-! ## The last file with a temp path -/

/-- `path` is the path of the last of the files that have this temp path. -/
def IsLastPath (files : List Candidate) (temp path : Text) : Prop :=
  ∃ before file after, files = before ++ file :: after ∧ file.tempPath = temp ∧
    file.path = path ∧ ∀ later ∈ after, later.tempPath ≠ temp

theorem not_isLastPath_nil (temp path : Text) : ¬ IsLastPath [] temp path := by
  rintro ⟨before, file, after, split, -⟩
  simp at split

theorem IsLastPath.mem {files : List Candidate} {temp path : Text}
    (last : IsLastPath files temp path) : temp ∈ files.map Candidate.tempPath := by
  obtain ⟨before, file, after, rfl, rfl, -, -⟩ := last
  simp

/-- A file that stands in a list with one more at its end is that one, or stands in the list. -/
theorem concat_eq_append_cons_iff {files before after : List Candidate} {file other : Candidate} :
    files ++ [file] = before ++ other :: after ↔
      (before = files ∧ other = file ∧ after = []) ∨
        ∃ rest, after = rest ++ [file] ∧ files = before ++ other :: rest := by
  constructor
  · intro split
    rcases List.eq_nil_or_concat after with rfl | ⟨rest, last, rfl⟩
    · obtain ⟨rfl, eq⟩ := List.append_inj' split rfl
      exact .inl ⟨rfl, (List.singleton_inj.1 eq).symm, rfl⟩
    · have ends : files ++ [file] = (before ++ other :: rest) ++ [last] := by simpa using split
      obtain ⟨rfl, eq⟩ := List.append_inj' ends rfl
      obtain rfl := List.singleton_inj.1 eq
      exact .inr ⟨rest, List.concat_eq_append, rfl⟩
  · rintro (⟨rfl, rfl, rfl⟩ | ⟨rest, rfl, rfl⟩)
    · rfl
    · simp

/-- One more file at the end is the last with its own temp path, and changes nothing for others. -/
theorem isLastPath_concat {files : List Candidate} {file : Candidate} {temp path : Text} :
    IsLastPath (files ++ [file]) temp path ↔
      if file.tempPath = temp then file.path = path else IsLastPath files temp path := by
  simp only [IsLastPath, concat_eq_append_cons_iff]
  split
  · rename_i same
    constructor
    · rintro ⟨before, other, after, ⟨rfl, rfl, rfl⟩ | ⟨rest, rfl, rfl⟩, -, named, later⟩
      · exact named
      · exact absurd same (later file (by simp))
    · intro named
      exact ⟨files, file, [], .inl ⟨rfl, rfl, rfl⟩, same, named, by simp⟩
  · rename_i different
    constructor
    · rintro ⟨before, other, after, ⟨rfl, rfl, rfl⟩ | ⟨rest, rfl, split⟩, found, named, later⟩
      · exact absurd found different
      · exact ⟨before, other, rest, split, found, named, fun _ mem => later _ (by simp [mem])⟩
    · rintro ⟨before, other, rest, split, found, named, later⟩
      refine ⟨before, other, rest ++ [file], .inr ⟨rest, rfl, split⟩, found, named, ?_⟩
      intro candidate mem
      rcases List.mem_append.1 mem with mem | mem
      · exact later candidate mem
      · rwa [List.mem_singleton.1 mem]

/-- Every temp path of some files has a last file. -/
theorem exists_isLastPath {files : List Candidate} {temp : Text}
    (mem : temp ∈ files.map Candidate.tempPath) : ∃ path, IsLastPath files temp path := by
  induction files using List.reverseRecOn with
  | nil => simp at mem
  | append_singleton files file ih =>
    by_cases same : file.tempPath = temp
    · exact ⟨file.path, isLastPath_concat.2 (by rw [if_pos same])⟩
    · have earlier : temp ∈ files.map Candidate.tempPath := by
        simpa [Ne.symm same] using mem
      obtain ⟨path, last⟩ := ih earlier
      exact ⟨path, isLastPath_concat.2 (by rwa [if_neg same])⟩

/-- It has only one. -/
theorem IsLastPath.unique {files : List Candidate} {temp path other : Text}
    (first : IsLastPath files temp path) (second : IsLastPath files temp other) : path = other := by
  induction files using List.reverseRecOn with
  | nil => exact absurd first (not_isLastPath_nil temp path)
  | append_singleton files file ih =>
    rw [isLastPath_concat] at first second
    split at first
    · rename_i same
      rw [if_pos same] at second
      exact first.symm.trans second
    · rename_i different
      rw [if_neg different] at second
      exact ih first second

/-- With distinct temp paths every file is the last one of its own. -/
theorem isLastPath_of_nodup {files : List Candidate}
    (distinct : (files.map Candidate.tempPath).Nodup) {file : Candidate} (mem : file ∈ files) :
    IsLastPath files file.tempPath file.path := by
  obtain ⟨before, after, rfl⟩ := List.append_of_mem mem
  refine ⟨before, file, after, rfl, rfl, rfl, ?_⟩
  intro later found same
  rw [List.map_append, List.map_cons, List.nodup_append, List.nodup_cons] at distinct
  exact distinct.2.1.1 (same ▸ List.mem_map_of_mem found)

/-! ## Tables that are arranged -/

/-- The entries are, each once and in an order of falling byte lengths, the temp paths of the files
that are not empty, with the paths of the last files that have them. Nothing is said of the order of
temp paths with equally many bytes. -/
structure IsArranged (files : List Candidate) (table : PathTable) : Prop where
  nodup : (table.entries.map Prod.fst).Nodup
  mem_iff : ∀ temp path, (temp, path) ∈ table.entries ↔ temp ≠ [] ∧ IsLastPath files temp path
  sorted : table.entries.Pairwise fun first second =>
    Text.byteLength second.1 ≤ Text.byteLength first.1

/-- To place an entry adds it, wherever that is. -/
theorem place_perm (temp path : Text) (entries : List (Text × Text)) :
    (place temp path entries).Perm ((temp, path) :: entries) := by
  induction entries with
  | nil => exact List.Perm.refl _
  | cons entry entries ih =>
    rw [place]
    split
    · exact (ih.cons entry).trans (List.Perm.swap _ _ entries)
    · exact List.Perm.refl _

/-- What is tried earlier is at least as long. -/
theorem byteLength_le_of_isTriedBefore {temp other : Text} (h : isTriedBefore temp other = true) :
    Text.byteLength other ≤ Text.byteLength temp := by
  rw [isTriedBefore] at h
  split at h
  · omega
  · simp only [decide_eq_true_eq] at h
    omega

theorem byteLength_le_of_not_isTriedBefore {temp other : Text}
    (h : ¬ isTriedBefore temp other = true) : Text.byteLength temp ≤ Text.byteLength other := by
  rw [isTriedBefore] at h
  split at h
  · omega
  · simp only [decide_eq_true_eq] at h
    omega

/-- Entries stay ordered by their lengths. -/
theorem pairwise_place {temp path : Text} {entries : List (Text × Text)}
    (sorted : entries.Pairwise fun first second =>
      Text.byteLength second.1 ≤ Text.byteLength first.1) :
    (place temp path entries).Pairwise fun first second =>
      Text.byteLength second.1 ≤ Text.byteLength first.1 := by
  induction entries with
  | nil => simp [place]
  | cons entry entries ih =>
    obtain ⟨below, rest⟩ := List.pairwise_cons.1 sorted
    rw [place]
    split
    · rename_i before
      refine List.pairwise_cons.2 ⟨?_, ih rest⟩
      intro other mem
      rcases mem_place.1 mem with rfl | mem
      · exact byteLength_le_of_isTriedBefore before
      · exact below other mem
    · rename_i behind
      have shorter := byteLength_le_of_not_isTriedBefore behind
      refine List.pairwise_cons.2 ⟨?_, sorted⟩
      intro other mem
      rcases List.mem_cons.1 mem with rfl | mem
      · exact shorter
      · exact Nat.le_trans (below other mem) shorter

theorem isArranged_empty : IsArranged [] empty where
  nodup := List.nodup_nil
  mem_iff temp path := by simp [empty, not_isLastPath_nil]
  sorted := List.Pairwise.nil

/-- One file more, in the table as in the list, leaves the table arranged. -/
theorem IsArranged.insertFile {files : List Candidate} {table : PathTable}
    (arranged : IsArranged files table) (file : Candidate) :
    IsArranged (files ++ [file]) (table.insertFile file) := by
  rw [PathTable.insertFile]
  split
  · rename_i blank
    refine ⟨arranged.nodup, ?_, arranged.sorted⟩
    intro temp path
    rw [arranged.mem_iff, isLastPath_concat, blank]
    by_cases h : temp = []
    · simp [h]
    · rw [if_neg (Ne.symm h)]
  · rename_i named
    have kept : (table.entries.filter fun entry => entry.1 ≠ file.tempPath).Sublist table.entries :=
      List.filter_sublist
    constructor
    · have perm := (place_perm file.tempPath file.path
        (table.entries.filter fun entry => entry.1 ≠ file.tempPath)).map Prod.fst
      refine perm.nodup_iff.2 (List.nodup_cons.2 ⟨?_, arranged.nodup.sublist (kept.map _)⟩)
      simp
    · intro temp path
      simp only [PathTable.insert, mem_place, Prod.mk.injEq, List.mem_filter, arranged.mem_iff,
        decide_eq_true_eq, isLastPath_concat]
      by_cases same : file.tempPath = temp
      · subst same
        simp [named, eq_comm]
      · simp [same, Ne.symm same]
    · exact pairwise_place (arranged.sorted.sublist kept)

/-- The table of some files is arranged, whatever they are. -/
theorem isArranged_ofCandidates (files : List Candidate) :
    IsArranged files (ofCandidates files) := by
  have run (files done : List Candidate) (table : PathTable) (arranged : IsArranged done table) :
      IsArranged (done ++ files) (files.foldl PathTable.insertFile table) := by
    induction files generalizing done table with
    | nil => simpa using arranged
    | cons file files ih => simpa using ih (done ++ [file]) _ (arranged.insertFile file)
  exact run files [] empty isArranged_empty

/-- The same entries in another order are arranged if no temp path stands behind one with fewer
bytes. -/
theorem IsArranged.of_perm {files : List Candidate} {table other : PathTable}
    (arranged : IsArranged files table) (perm : other.entries.Perm table.entries)
    (sorted : other.entries.Pairwise fun first second =>
      Text.byteLength second.1 ≤ Text.byteLength first.1) : IsArranged files other where
  nodup := (perm.map Prod.fst).nodup_iff.2 arranged.nodup
  mem_iff temp path := perm.mem_iff.trans (arranged.mem_iff temp path)
  sorted := sorted

/-- Looking up a temp path gives the path of the last file that has it. -/
theorem IsArranged.find?_eq_some_iff {files : List Candidate} {table : PathTable}
    (arranged : IsArranged files table) {temp path : Text} :
    table.find? temp = some path ↔ temp ≠ [] ∧ IsLastPath files temp path := by
  rw [← arranged.mem_iff, PathTable.find?, List.lookup_eq_some_iff]
  constructor
  · rintro ⟨before, after, split, -⟩
    rw [split]
    simp
  · intro mem
    obtain ⟨before, after, split⟩ := List.append_of_mem mem
    refine ⟨before, after, split, ?_⟩
    intro entry earlier
    have nodup := arranged.nodup
    rw [split, List.map_append, List.map_cons] at nodup
    have apart :=
      (List.nodup_append.1 nodup).2.2 entry.1 (List.mem_map_of_mem earlier) temp (by simp)
    simpa using Ne.symm apart

end CheckoutLint.PathTable
