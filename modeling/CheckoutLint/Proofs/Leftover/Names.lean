import CheckoutLint.Inspection
import CheckoutLint.Proofs.Text.Pattern
import Mathlib

/-!
The names by which leftovers are told. Each kind stands for a pattern with at most one wildcard, and
a wildcard does not go past the end of a line. The patterns of the kinds other than lock files ask
for different last characters, so that one of them fits a name at most, and lock files come on top.

* `Marks`: what the name of a leftover looks like, kind by kind.
* `covers_iff_spelled`: which names a kind covers, with and without line feeds.
* `eq_of_marks`: kinds exclude each other, lock files apart.
* `length_reports_le_two`, `length_reports_eq_two_iff`: how many kinds fit a name.
* `check_leftovers`: what is reported.
-/

namespace CheckoutLint

namespace Leftover

open Text Text.Piece

/-! ## Patterns -/

/-- Anything within a line that has a given front and, apart from it, a given back. -/
def between (front back : Text) : List Piece :=
  literal front ++ ([.run (· != '\n')] ++ literal back)

/-- The pattern of a kind. -/
def pattern : Leftover → List Piece
  | .vimSwap => between [] ".swp".toList
  | .emacsAutosave => between "#".toList "#".toList
  | .emacsBackup => between [] "~".toList
  | .emacsLock => between ".#".toList []
  | .macSystem => literal ".DS_STORE".toList
  | .windowsSystem => literal "Thumbs.db".toList

/-- What a name in a single line looks like if it is of this kind. -/
def Marks : Leftover → Text → Prop
  | .vimSwap, name => ".swp".toList <:+ name
  | .emacsAutosave, name => 2 ≤ name.length ∧ "#".toList <+: name ∧ "#".toList <:+ name
  | .emacsBackup, name => "~".toList <:+ name
  | .emacsLock, name => ".#".toList <+: name
  | .macSystem, name => name = ".DS_STORE".toList
  | .windowsSystem, name => name = "Thumbs.db".toList

instance : (kind : Leftover) → (name : Text) → Decidable (kind.Marks name)
  | .vimSwap, name => inferInstanceAs (Decidable (".swp".toList <:+ name))
  | .emacsAutosave, name =>
    inferInstanceAs (Decidable (2 ≤ name.length ∧ "#".toList <+: name ∧ "#".toList <:+ name))
  | .emacsBackup, name => inferInstanceAs (Decidable ("~".toList <:+ name))
  | .emacsLock, name => inferInstanceAs (Decidable (".#".toList <+: name))
  | .macSystem, name => inferInstanceAs (Decidable (name = ".DS_STORE".toList))
  | .windowsSystem, name => inferInstanceAs (Decidable (name = "Thumbs.db".toList))

section Spelled

variable {kind : Leftover} {front back word name : Text}

/-- Each pattern covers the names that its kind marks. -/
theorem coversName_iff_marks : kind.coversName name = true ↔ kind.Marks name := by
  cases kind <;> simp [coversName, Marks, and_assoc]

/-- With a line feed in it, no name is covered. -/
theorem covers_iff_marks : kind.covers name = true ↔ '\n' ∉ name ∧ kind.Marks name := by
  rw [covers, Bool.and_eq_true, coversName_iff_marks, Bool.not_eq_true', ← Bool.not_eq_true,
    List.contains_iff_mem]

theorem spelled_word_iff : Spelled (· = ·) (literal word) name ↔ name = word := by
  rw [spelled_literal_iff, List.forall₂_eq_eq_eq, eq_comm]

/-- The front and the back must both have room in the name. -/
theorem exists_middle_iff :
    (∃ middle, name = front ++ (middle ++ back)) ↔
      front.length + back.length ≤ name.length ∧ front <+: name ∧ back <:+ name := by
  constructor
  · rintro ⟨middle, rfl⟩
    have ends : back <:+ front ++ (middle ++ back) :=
      (List.suffix_append middle back).trans (List.suffix_append front _)
    refine ⟨?_, List.prefix_append front _, ends⟩
    simp only [List.length_append]
    omega
  · rintro ⟨room, ⟨rest, rfl⟩, ends⟩
    -- The back ends the name and is no longer than what follows the front, so it ends that too.
    have short : back.length ≤ rest.length := by
      rw [List.length_append] at room
      omega
    obtain ⟨middle, rfl⟩ :=
      List.suffix_of_suffix_length_le ends (List.suffix_append front rest) short
    exact ⟨middle, rfl⟩

/-- Between two words, a name begins with one, ends with the other, and is long enough for both. -/
theorem spelled_between_iff (plainFront : '\n' ∉ front) (plainBack : '\n' ∉ back) :
    Spelled (· = ·) (between front back) name ↔
      '\n' ∉ name ∧ front.length + back.length ≤ name.length ∧ front <+: name ∧ back <:+ name := by
  have line (s : Text) : Spelled (· = ·) [.run (· != '\n')] s ↔ '\n' ∉ s := by
    rw [spelled_singleton_iff, Piece.Spells]
    simp only [bne_iff_ne]
    exact List.forall_mem_ne'
  rw [← exists_middle_iff]
  simp only [between, spelled_append_iff, spelled_word_iff, line]
  constructor
  · rintro ⟨_, _, rfl, rfl, middle, _, rfl, plain, rfl⟩
    exact ⟨by simp [plainFront, plain, plainBack], middle, rfl⟩
  · rintro ⟨plain, middle, rfl⟩
    refine ⟨front, _, rfl, rfl, middle, back, rfl, ?_, rfl⟩
    exact fun mem => plain (by simp [mem])

theorem spelled_beginning_iff (plain : '\n' ∉ front) :
    Spelled (· = ·) (between front []) name ↔ '\n' ∉ name ∧ front <+: name := by
  rw [spelled_between_iff plain List.not_mem_nil]
  refine and_congr_right fun _ => ⟨fun fits => fits.2.1, fun starts => ?_⟩
  exact ⟨starts.length_le, starts, List.nil_suffix⟩

theorem spelled_ending_iff (plain : '\n' ∉ back) :
    Spelled (· = ·) (between [] back) name ↔ '\n' ∉ name ∧ back <:+ name := by
  rw [spelled_between_iff List.not_mem_nil plain]
  refine and_congr_right fun _ => ⟨fun fits => fits.2.2, fun ends => ?_⟩
  exact ⟨by simpa using ends.length_le, List.nil_prefix, ends⟩

/-- A name with a line feed in it fits no pattern. -/
theorem covers_iff_spelled : kind.covers name = true ↔ Spelled (· = ·) kind.pattern name := by
  have whole {word : Text} (plain : '\n' ∉ word) :
      '\n' ∉ name ∧ name = word ↔ Spelled (· = ·) (literal word) name := by
    rw [spelled_word_iff]
    exact ⟨And.right, fun is => ⟨is ▸ plain, is⟩⟩
  rw [covers_iff_marks]
  cases kind with
  | vimSwap => exact (spelled_ending_iff (by decide)).symm
  | emacsAutosave =>
    have plain : '\n' ∉ "#".toList := by decide
    exact (spelled_between_iff plain plain).symm
  | emacsBackup => exact (spelled_ending_iff (by decide)).symm
  | emacsLock => exact (spelled_beginning_iff (by decide)).symm
  | macSystem => exact whole (by decide)
  | windowsSystem => exact whole (by decide)

end Spelled

/-! ## Kinds that share a name -/

/-- The last character that a kind asks for. A lock file may end in any. -/
def last? : Leftover → Option Char
  | .vimSwap => some 'p'
  | .emacsAutosave => some '#'
  | .emacsBackup => some '~'
  | .emacsLock => none
  | .macSystem => some 'E'
  | .windowsSystem => some 'b'

/-- The kinds of a name in a single line, in report order. -/
def marking (name : Text) : List Leftover := all.filter fun kind => decide (kind.Marks name)

/-- What is reported of a file, one line for each kind of its name. -/
def reports (path name : Text) : List Text :=
  (marking name).map fun kind => "remove ".toList ++ kind.label ++ " file: ".toList ++ path

section Marking

variable {kind other : Leftover} {path name : Text}

/-- Kinds other than that of locks tell by the last character. -/
theorem Marks.getLast?_eq (marks : kind.Marks name) (noLock : kind ≠ .emacsLock) :
    name.getLast? = kind.last? := by
  have ending {back : Text} {c : Char} (last : back.getLast? = some c) (ends : back <:+ name) :
      name.getLast? = some c := by
    obtain ⟨front, rfl⟩ := ends
    rw [List.getLast?_append, last, Option.some_or]
  cases kind with
  | vimSwap => exact ending rfl marks
  | emacsAutosave => exact ending rfl marks.2.2
  | emacsBackup => exact ending rfl marks
  | emacsLock => exact absurd rfl noLock
  | macSystem => exact marks ▸ rfl
  | windowsSystem => exact marks ▸ rfl

theorem last?_inj : kind.last? = other.last? ↔ kind = other := by
  cases kind <;> cases other <;> decide

/-- A name is marked by at most one kind besides that of locks. -/
theorem eq_of_marks (marks : kind.Marks name) (noLock : kind ≠ .emacsLock)
    (alsoMarks : other.Marks name) (alsoNoLock : other ≠ .emacsLock) : kind = other :=
  last?_inj.1 ((marks.getLast?_eq noLock).symm.trans (alsoMarks.getLast?_eq alsoNoLock))

theorem mem_marking_iff : kind ∈ marking name ↔ kind.Marks name := by
  simp [marking, mem_all]

theorem nodup_marking : (marking name).Nodup :=
  List.Nodup.filter _ (by decide)

theorem length_le_one_of_nodup {α : Type} {l : List α} (nodup : l.Nodup)
    (same : ∀ a ∈ l, ∀ b ∈ l, a = b) : l.length ≤ 1 := by
  match l, nodup, same with
  | [], _, _ => exact Nat.zero_le 1
  | [_], _, _ => exact Nat.le_refl 1
  | a :: b :: _, nodup, same =>
    exact absurd (same a (by simp) b (by simp)) fun eq => by simp [eq] at nodup

/-- A name has at most one kind that is no lock file. -/
theorem length_others_le_one (name : Text) :
    ((marking name).filter (· ≠ .emacsLock)).length ≤ 1 := by
  refine length_le_one_of_nodup (nodup_marking.filter _) fun kind mem other also => ?_
  simp only [List.mem_filter, mem_marking_iff, decide_eq_true_eq] at mem also
  exact eq_of_marks mem.1 mem.2 also.1 also.2

theorem length_locks_le_one (name : Text) :
    ((marking name).filter (· = .emacsLock)).length ≤ 1 := by
  refine length_le_one_of_nodup (nodup_marking.filter _) fun kind mem other also => ?_
  simp only [List.mem_filter, decide_eq_true_eq] at mem also
  rw [mem.2, also.2]

/-- The kinds of a name are the lock and the others. -/
theorem length_marking :
    (marking name).length = ((marking name).filter (· = .emacsLock)).length +
      ((marking name).filter (· ≠ .emacsLock)).length := by
  rw [List.length_eq_length_filter_add fun kind => decide (kind = .emacsLock)]
  simp only [decide_not]

/-- A name is reported at most twice. -/
theorem length_reports_le_two : (reports path name).length ≤ 2 := by
  rw [reports, List.length_map, length_marking]
  exact Nat.add_le_add (length_locks_le_one name) (length_others_le_one name)

/-- The kinds that a lock file can have besides: the others begin with another character. -/
theorem exists_other_marks_iff (lock : ".#".toList <+: name) :
    (∃ kind : Leftover, kind ≠ .emacsLock ∧ kind.Marks name) ↔
      ".swp".toList <:+ name ∨ "~".toList <:+ name := by
  constructor
  · rintro ⟨kind, noLock, marks⟩
    cases kind with
    | vimSwap => exact .inl marks
    | emacsAutosave =>
      obtain ⟨rest, rfl⟩ := lock
      exact absurd marks.2.1 (by simp)
    | emacsBackup => exact .inr marks
    | emacsLock => exact absurd rfl noLock
    | macSystem => exact absurd (marks ▸ lock) (by decide)
    | windowsSystem => exact absurd (marks ▸ lock) (by decide)
  · rintro (swap | backup)
    · exact ⟨.vimSwap, by decide, swap⟩
    · exact ⟨.emacsBackup, by decide, backup⟩

/-- When a name is reported twice. -/
theorem length_reports_eq_two_iff :
    (reports path name).length = 2 ↔
      ".#".toList <+: name ∧ (".swp".toList <:+ name ∨ "~".toList <:+ name) := by
  have locks : 0 < ((marking name).filter (· = .emacsLock)).length ↔ ".#".toList <+: name := by
    simp [List.length_pos_iff_exists_mem, mem_marking_iff, Marks]
  have others : 0 < ((marking name).filter (· ≠ .emacsLock)).length ↔
      ∃ kind : Leftover, kind ≠ .emacsLock ∧ kind.Marks name := by
    simp [List.length_pos_iff_exists_mem, mem_marking_iff, and_comm]
  have fewLocks := length_locks_le_one name
  have fewOthers := length_others_le_one name
  rw [reports, List.length_map, length_marking]
  calc _ ↔ 0 < ((marking name).filter (· = .emacsLock)).length ∧
        0 < ((marking name).filter (· ≠ .emacsLock)).length := by omega
    _ ↔ _ := by
      rw [locks, others]
      exact and_congr_right exists_other_marks_iff

/-- The warnings about a name are its reports in the order of the table. -/
theorem warnings_eq_reports (plain : '\n' ∉ name) : warnings path name = reports path name := by
  have same : (fun kind : Leftover => kind.covers name) = fun kind => decide (kind.Marks name) := by
    funext kind
    rw [Bool.eq_iff_iff, covers_iff_marks, decide_eq_true_eq]
    exact and_iff_right plain
  rw [warnings, same]
  rfl

end Marking

end Leftover

namespace Inspection

open Leftover Text

/-- What is reported, file by file and kind by kind. A kind covers the names that its pattern spells
as a whole. A name has two kinds at most, and two only if one of them is that of lock files. -/
theorem check_leftovers {σ : Type} (launch : Launcher σ) (accepted : List Candidate) (state : σ)
    (plain : ∀ file ∈ accepted, '\n' ∉ file.baseName) :
    (⟨.scan .leftovers, accepted⟩ : Inspection).check launch state =
        (.ok (accepted.flatMap fun file => reports file.path file.baseName), state) ∧
      (∀ kind name, Leftover.covers kind name = true ↔ Spelled (· = ·) kind.pattern name) ∧
      ∀ path name, (reports path name).length ≤ 2 ∧
        ((reports path name).length = 2 ↔
          ".#".toList <+: name ∧ (".swp".toList <:+ name ∨ "~".toList <:+ name)) := by
  have checked := check_scan launch state
    (rfl : (⟨.scan .leftovers, accepted⟩ : Inspection).checker = .scan .leftovers)
  have reported : accepted.flatMap Scan.leftovers.warnings =
      accepted.flatMap fun file => reports file.path file.baseName := by
    rw [List.flatMap_def, List.flatMap_def]
    congr 1
    exact List.map_congr_left fun file mem => warnings_eq_reports (plain file mem)
  rw [reported] at checked
  exact ⟨checked, fun kind name => covers_iff_spelled,
    fun path name => ⟨length_reports_le_two, length_reports_eq_two_iff⟩⟩

/-! ### Leftovers of all kinds -/

/-- Files that are left behind, and names that look like it. -/
def leftoverFiles : List Candidate :=
  ["a/.#b.swp", "a/.#~", "#", "##", "b/#a.swp~", "c/.DS_Store", "c/.DS_STORE", "Thumbs.db"].map
    fun path => Candidate.ofPaths [] path.toList

/-- Names of every kind, two of them reported twice. -/
theorem check_leftoverFiles :
    (∀ file ∈ leftoverFiles, '\n' ∉ file.baseName) ∧
      (⟨.scan .leftovers, leftoverFiles⟩ : Inspection).check
          (fun _ state => (.ok ⟨0, []⟩, state)) () =
        (.ok ["remove Vim swap file: a/.#b.swp".toList,
          "remove Emacs lock file file: a/.#b.swp".toList,
          "remove Emacs backup file: a/.#~".toList,
          "remove Emacs lock file file: a/.#~".toList,
          "remove Emacs autosave file: ##".toList, "remove Emacs backup file: b/#a.swp~".toList,
          "remove Mac OS sys file file: c/.DS_STORE".toList,
          "remove Windows sys file file: Thumbs.db".toList], ()) := by
  have plain : ∀ file ∈ leftoverFiles, '\n' ∉ file.baseName := by decide
  obtain ⟨checked, -⟩ := check_leftovers (fun _ state => (.ok ⟨0, []⟩, state)) leftoverFiles ()
    plain
  refine ⟨plain, checked.trans ?_⟩
  rfl

end Inspection

end CheckoutLint
