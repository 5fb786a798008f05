import CheckoutLint.Proofs.PathTable.Arrangement
import Mathlib

/-!
Restoring as a substitution. `Substituted` says what restoring a line comes to without a table: at
every position the longest temp path that begins there is consumed, and the path of the last file
that has it is written; where none begins, one character is copied. Temp paths that begin at one
position are beginnings of one another, so falling byte lengths put the longest first, however ties
are broken.

* `IsArranged.cut?_eq_some_iff`, `IsArranged.cut?_eq_none_iff`: what an arranged table cuts off.
* `Substituted.unique`: the substitution has one result.
* `restore_eq_iff_substituted`: every arranged table restores as the substitution says.
-/

namespace CheckoutLint.PathTable

/-! ## The substitution -/

/-- The longest of the temp paths of the files, empty ones left out, with which a text begins. -/
structure IsLongestTemp (files : List Candidate) (s temp : Text) : Prop where
  ne_nil : temp ≠ []
  mem : temp ∈ files.map Candidate.tempPath
  begins : temp <+: s
  longest : ∀ file ∈ files, file.tempPath <+: s → file.tempPath.length ≤ temp.length

/-- `Substituted files line out`: reading `line` from the left, with the longest temp path consumed
wherever one begins and a character copied wherever none does, writes `out`. -/
inductive Substituted (files : List Candidate) : Text → Text → Prop
  | done : Substituted files [] []
  | path {temp path rest out : Text} :
    IsLongestTemp files (temp ++ rest) temp → IsLastPath files temp path →
    Substituted files rest out → Substituted files (temp ++ rest) (path ++ out)
  | char {c : Char} {s out : Text} :
    (∀ file ∈ files, file.tempPath ≠ [] → ¬ file.tempPath <+: c :: s) →
    Substituted files s out → Substituted files (c :: s) (c :: out)

/-- There is only one longest temp path at the front of a text. -/
theorem IsLongestTemp.unique {files : List Candidate} {s temp other : Text}
    (first : IsLongestTemp files s temp) (second : IsLongestTemp files s other) : temp = other := by
  obtain ⟨file, mem, rfl⟩ := List.mem_map.1 first.mem
  obtain ⟨file', mem', rfl⟩ := List.mem_map.1 second.mem
  have short := second.longest file mem first.begins
  have long := first.longest file' mem' second.begins
  have starts := List.prefix_of_prefix_length_le first.begins second.begins short
  exact starts.eq_of_length_le long

/-- A temp path that begins a text contradicts that none of the files has one that does. -/
theorem IsLongestTemp.exists_file {files : List Candidate} {s temp : Text}
    (longest : IsLongestTemp files s temp) :
    ∃ file ∈ files, file.tempPath ≠ [] ∧ file.tempPath <+: s := by
  obtain ⟨file, mem, rfl⟩ := List.mem_map.1 longest.mem
  exact ⟨file, mem, longest.ne_nil, longest.begins⟩

/-- The substitution has one result. -/
theorem Substituted.unique {files : List Candidate} {line out other : Text}
    (first : Substituted files line out) (second : Substituted files line other) : out = other := by
  induction first generalizing other with
  | done =>
    generalize eq : ([] : Text) = line at second
    cases second with
    | done => rfl
    | path longest =>
      obtain ⟨rfl, -⟩ := List.append_eq_nil_iff.1 eq.symm
      exact absurd rfl longest.ne_nil
    | char => cases eq
  | @path temp path rest out longest last _ ih =>
    generalize eq : temp ++ rest = line at second
    cases second with
    | done =>
      obtain ⟨rfl, -⟩ := List.append_eq_nil_iff.1 eq
      exact absurd rfl longest.ne_nil
    | @path temp' path' rest' out' longest' last' after =>
      rw [← eq] at longest'
      obtain rfl := longest.unique longest'
      obtain rfl := List.append_cancel_left eq
      rw [last.unique last', ih after]
    | char none =>
      obtain ⟨file, mem, named, begins⟩ := longest.exists_file
      exact absurd (eq ▸ begins) (none file mem named)
  | @char c s out none _ ih =>
    generalize eq : c :: s = line at second
    cases second with
    | done => cases eq
    | path longest =>
      obtain ⟨file, mem, named, begins⟩ := longest.exists_file
      exact absurd (eq ▸ begins) (none file mem named)
    | char _ after =>
      obtain ⟨rfl, rfl⟩ := List.cons.inj eq
      rw [ih after]

/-! ## What an arranged table cuts off -/

/-- Of two texts that begin the same text, the one with more bytes has more characters. -/
theorem length_le_of_byteLength_le {a b s : Text} (left : a <+: s) (right : b <+: s)
    (bytes : Text.byteLength a ≤ Text.byteLength b) : a.length ≤ b.length := by
  rcases List.prefix_or_prefix_of_prefix left right with shorter | ⟨rest, rfl⟩
  · exact shorter.length_le
  · cases rest with
    | nil => simp
    | cons c rest =>
      have size := c.utf8Size_pos
      rw [Text.byteLength_append, Text.byteLength_cons] at bytes
      omega

/-- Nothing is cut off just if no temp path stands at the front. -/
theorem IsArranged.cut?_eq_none_iff {files : List Candidate} {table : PathTable}
    (arranged : IsArranged files table) {s : Text} :
    table.cut? s = none ↔ ∀ file ∈ files, file.tempPath ≠ [] → ¬ file.tempPath <+: s := by
  have fits (entry : Text × Text) :
      (Text.dropStart? entry.1 s).map (entry.2, ·) = none ↔ ¬ entry.1 <+: s := by
    rw [Option.map_eq_none_iff, Option.eq_none_iff_forall_ne_some]
    simp only [ne_eq, Text.dropStart?_eq_some_iff]
    constructor
    · rintro none ⟨rest, split⟩
      exact none rest split.symm
    · intro none rest split
      exact none ⟨rest, split.symm⟩
  simp only [cut?, List.findSome?_eq_none_iff, fits]
  constructor
  · intro none file mem named begins
    obtain ⟨path, last⟩ := exists_isLastPath (List.mem_map_of_mem mem)
    exact none _ ((arranged.mem_iff _ path).2 ⟨named, last⟩) begins
  · rintro none ⟨temp, path⟩ mem begins
    obtain ⟨named, last⟩ := (arranged.mem_iff temp path).1 mem
    obtain ⟨file, found, rfl⟩ := List.mem_map.1 last.mem
    exact none file found named begins

/-- An arranged table cuts the longest temp path off, and gives the path of the last file that has
it. -/
theorem IsArranged.isLongestTemp_of_cut {files : List Candidate} {table : PathTable}
    (arranged : IsArranged files table) {s path rest : Text}
    (cut : table.cut? s = some (path, rest)) :
    ∃ temp, IsLongestTemp files s temp ∧ IsLastPath files temp path ∧ s = temp ++ rest := by
  obtain ⟨before, ⟨temp, path'⟩, after, split, found, earlier⟩ := List.findSome?_eq_some_iff.1 cut
  obtain ⟨rest', dropped, eq⟩ := Option.map_eq_some_iff.1 found
  obtain ⟨rfl, rfl⟩ := Prod.mk.inj eq
  have begins : s = temp ++ rest' := Text.dropStart?_eq_some_iff.1 dropped
  obtain ⟨named, last⟩ := (arranged.mem_iff temp path').1 (by simp [split])
  refine ⟨temp, ⟨named, last.mem, ⟨rest', begins.symm⟩, ?_⟩, last, begins⟩
  intro file mem starts
  by_cases empty : file.tempPath = []
  · simp [empty]
  obtain ⟨other, lastOther⟩ := exists_isLastPath (List.mem_map_of_mem mem)
  have entry := (arranged.mem_iff _ other).2 ⟨empty, lastOther⟩
  rw [split, List.mem_append, List.mem_cons] at entry
  rcases entry with entry | entry | entry
  · obtain ⟨tail, eq⟩ := starts
    have drops : Text.dropStart? file.tempPath s = some tail :=
      Text.dropStart?_eq_some_iff.2 eq.symm
    have missed := earlier _ entry
    simp [drops] at missed
  · exact Nat.le_of_eq (congrArg List.length (Prod.mk.inj entry).1)
  · have sorted := arranged.sorted
    rw [split, List.pairwise_append, List.pairwise_cons] at sorted
    exact length_le_of_byteLength_le starts ⟨rest', begins.symm⟩ (sorted.2.1.1 _ entry)

/-- What is cut off is the longest temp path, for the path of its last file. -/
theorem IsArranged.cut?_eq_some_iff {files : List Candidate} {table : PathTable}
    (arranged : IsArranged files table) {s path rest : Text} :
    table.cut? s = some (path, rest) ↔
      ∃ temp, IsLongestTemp files s temp ∧ IsLastPath files temp path ∧ s = temp ++ rest := by
  constructor
  · exact arranged.isLongestTemp_of_cut
  · rintro ⟨temp, longest, last, split⟩
    cases cut : table.cut? s with
    | none =>
      obtain ⟨file, mem, named, begins⟩ := longest.exists_file
      exact absurd begins (arranged.cut?_eq_none_iff.1 cut file mem named)
    | some found =>
      obtain ⟨temp', longest', last', split'⟩ := arranged.isLongestTemp_of_cut cut
      obtain rfl := longest.unique longest'
      rw [last.unique last', List.append_cancel_left (split.symm.trans split')]

/-! ## Restoring -/

/-- An arranged table restores a line as the substitution says. The recursion is that of
restoring: each step consumes a temp path or one character. -/
theorem IsArranged.substituted_restore {files : List Candidate} {table : PathTable}
    (arranged : IsArranged files table) (line : Text) :
    Substituted files line (table.restore line) := by
  fun_induction restore table line with
  | case1 => exact .done
  | case2 c s path rest cut ih =>
    obtain ⟨temp, longest, last, split⟩ := arranged.cut?_eq_some_iff.1 cut
    rw [split] at longest ⊢
    exact .path longest last ih
  | case3 c s cut ih => exact .char (arranged.cut?_eq_none_iff.1 cut) ih

/-- What an arranged table restores is the substitution by longest matches. -/
theorem IsArranged.restore_eq_iff {files : List Candidate} {table : PathTable}
    (arranged : IsArranged files table) {line out : Text} :
    table.restore line = out ↔ Substituted files line out := by
  constructor
  · rintro rfl
    exact arranged.substituted_restore line
  · exact (arranged.substituted_restore line).unique

/-- A temp path alone is restored to the path of the last file that has it. -/
theorem IsArranged.restore_temp {files : List Candidate} {table : PathTable}
    (arranged : IsArranged files table) {temp path : Text} (named : temp ≠ [])
    (last : IsLastPath files temp path) : table.restore temp = path := by
  have longest : IsLongestTemp files temp temp :=
    ⟨named, last.mem, List.prefix_rfl, fun _ _ begins => begins.length_le⟩
  have cut : table.cut? temp = some (path, []) :=
    arranged.cut?_eq_some_iff.2 ⟨temp, longest, last, (List.append_nil temp).symm⟩
  rw [restore_of_cut cut, restore_nil, List.append_nil]

/-- A temp path that begins no other one is consumed where a line begins with it, whatever follows.
-/
theorem IsArranged.restore_append {files : List Candidate} {table : PathTable}
    (arranged : IsArranged files table) {temp path : Text} (named : temp ≠ [])
    (last : IsLastPath files temp path)
    (alone : ∀ file ∈ files, temp <+: file.tempPath → file.tempPath = temp) (rest : Text) :
    table.restore (temp ++ rest) = path ++ table.restore rest := by
  have longest : IsLongestTemp files (temp ++ rest) temp := by
    refine ⟨named, last.mem, List.prefix_append temp rest, fun file mem begins => ?_⟩
    rcases List.prefix_or_prefix_of_prefix begins (List.prefix_append temp rest) with
      shorter | longer
    · exact shorter.length_le
    · exact (congrArg List.length (alone file mem longer)).le
  exact restore_of_cut (arranged.cut?_eq_some_iff.2 ⟨temp, longest, last, rfl⟩)

/-- The table of a list of files restores every line to the result of the substitution. So does
every list of the same entries in which no temp path stands behind one with fewer bytes, and each
temp path is restored to the path that is looked up for it. -/
theorem restore_eq_iff_substituted (files : List Candidate) :
    (∀ line out, (ofCandidates files).restore line = out ↔ Substituted files line out) ∧
      (∀ table, IsArranged files table →
        ∀ line, table.restore line = (ofCandidates files).restore line) ∧
      ∀ file ∈ files, file.tempPath ≠ [] →
        (ofCandidates files).find? file.tempPath =
          some ((ofCandidates files).restore file.tempPath) := by
  have arranged := isArranged_ofCandidates files
  refine ⟨fun line out => arranged.restore_eq_iff, ?_, ?_⟩
  · intro table other line
    exact other.restore_eq_iff.2 (arranged.substituted_restore line)
  · intro file mem named
    obtain ⟨path, last⟩ := exists_isLastPath (List.mem_map_of_mem mem)
    rw [arranged.restore_temp named last]
    exact arranged.find?_eq_some_iff.2 ⟨named, last⟩

/-- Files with temp paths that are empty, repeated, beginnings of one another and equally long. -/
def tangledFiles : List Candidate :=
  [("a", "README"), ("ab", "docs/README"), ("", "TODO"), ("cd", "$1.md"), ("a", "new/README")].map
    fun (temp, path) => Candidate.ofPaths temp.toList path.toList

/-- Their table, with the two temp paths of two bytes in the other order. -/
def swappedTable : PathTable where
  entries :=
    [("cd".toList, "$1.md".toList), ("ab".toList, "docs/README".toList),
      ("a".toList, "new/README".toList)]
  temp_ne_nil := by decide

theorem isArranged_swappedTable : IsArranged tangledFiles swappedTable :=
  (isArranged_ofCandidates tangledFiles).of_perm (List.Perm.swap _ _ _) (by decide)

/-- Two arrangements of tangled files restore alike. -/
theorem swappedTable_restore :
    IsArranged tangledFiles swappedTable ∧
      swappedTable.restore "abacd".toList =
        (ofCandidates tangledFiles).restore "abacd".toList ∧
      Substituted tangledFiles "abacd".toList "docs/READMEnew/README$1.md".toList ∧
      (ofCandidates tangledFiles).find? "a".toList =
        some ((ofCandidates tangledFiles).restore "a".toList) := by
  obtain ⟨substituted, orderFree, looked⟩ := restore_eq_iff_substituted tangledFiles
  refine ⟨isArranged_swappedTable, orderFree _ isArranged_swappedTable _,
    (substituted _ _).1 (by cbv), ?_⟩
  exact looked (Candidate.ofPaths "a".toList "README".toList) (by simp [tangledFiles]) (by decide)

end CheckoutLint.PathTable
