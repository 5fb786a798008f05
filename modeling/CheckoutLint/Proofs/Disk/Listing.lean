import CheckoutLint.Disk.Walk
import CheckoutLint.Proofs.Disk.Places
import CheckoutLint.Proofs.Text.ByteOrder
import CheckoutLint.Proofs.Text.RoundTrip
import Mathlib

/-!
The listing of a checkout. In a tree whose directories list every name once and no slash in it, each
file that a walk comes to is listed once, whatever the order in which the directories list their
entries. What is listed is a text, so files whose names are no texts can be listed alike; names that
are texts tell the place. What a directory holds is missing from the list if the system does not let
the directory be read.

* `Node.mem_files_iff`, `Node.nodup_files`: which files are listed, and that each is once.
* `Place.shown_inj`: what is listed tells the place, where all names are texts.
* `Disk.pairwise_sorted`: the order of the list, in bytes.
* `Disk.walk_listing`: all that a walk comes to.
-/

namespace CheckoutLint

/-- The path of a place below the directory at a path. -/
def Path.below (path : Bytes) (place : Place) : Bytes :=
  place.foldr (fun name path => join path name) path

/-! ## What a file is listed as -/

namespace Place

/-- A place whose names are texts. -/
def IsText (place : Place) : Prop := ∀ name ∈ place, ∃ s : Text, name = Text.utf8 s

theorem slash_mem_utf8 {s : Text} (mem : '/' ∈ s) : PathSign.slash ∈ Text.utf8 s :=
  List.mem_flatMap.2 ⟨'/', mem, by decide⟩

/-- A name that is a text and has no slash is shown without one. -/
theorem slash_not_mem_decodeLossy {name : Bytes} (text : ∃ s : Text, name = Text.utf8 s)
    (slashless : PathSign.slash ∉ name) : '/' ∉ Text.decodeLossy name := by
  obtain ⟨s, rfl⟩ := text
  rw [Text.decodeLossy_utf8]
  exact fun mem => slashless (slash_mem_utf8 mem)

/-- The path that a file is listed as is parted again into the names of its place. -/
theorem splitAt_shown {place : Place} (some : place ≠ []) (text : place.IsText)
    (slashless : ∀ name ∈ place, PathSign.slash ∉ name) :
    Text.splitAt '/' place.shown = place.reverse.map Text.decodeLossy := by
  refine Text.splitAt_joinWith (by simpa using some) fun piece mem => ?_
  obtain ⟨name, held, rfl⟩ := List.mem_map.1 mem
  have held := List.mem_reverse.1 held
  exact slash_not_mem_decodeLossy (text name held) (slashless name held)

/-- Names that are texts can be read back from how they are shown. -/
theorem utf8_decodeLossy_of_isText {place : Place} (text : place.IsText) :
    (place.map Text.decodeLossy).map Text.utf8 = place := by
  rw [List.map_map]
  refine (List.map_congr_left fun name mem => ?_).trans (List.map_id place)
  obtain ⟨s, rfl⟩ := text name mem
  rw [Function.comp_apply, Text.decodeLossy_utf8, id]

/-- Where all names are texts without a slash, different files are listed differently. -/
theorem shown_inj {place other : Place} (some : place ≠ []) (some' : other ≠ [])
    (text : place.IsText) (text' : other.IsText)
    (slashless : ∀ name ∈ place, PathSign.slash ∉ name)
    (slashless' : ∀ name ∈ other, PathSign.slash ∉ name) (same : place.shown = other.shown) :
    place = other := by
  have pieces := splitAt_shown some text slashless
  rw [same, splitAt_shown some' text' slashless', List.map_reverse, List.map_reverse,
    List.reverse_inj] at pieces
  rw [← utf8_decodeLossy_of_isText text, ← utf8_decodeLossy_of_isText text', pieces]

end Place

namespace Node

variable {sight : Sight} {skip : List Text} {node : Node} {entries : List (Bytes × Node)}
  {path : Bytes} {place : Place}

/-! ## What is listed -/

/-- A regular file at a place below a node, which is read by a path itself, that a walk comes to:
the system tells what stands at each step of the way and lets every directory there be read, none of
which is to be left out. The name of the file does not count. -/
structure Lists (sight : Sight) (skip : List Text) (path : Bytes) (node : Node) (place : Place) :
    Prop where
  below : place ≠ []
  file : ∃ bytes executable, node.find? place = some (.file bytes executable)
  kept : ∀ name ∈ place.tail, name ∉ skip.map Text.utf8
  opens : ∀ around, around <:+ place.tail → sight.opens (Path.below path around) = true
  tells : ∀ inner, inner <:+ place → inner ≠ [] → sight.tells (Path.below path inner) = true

theorem not_lists_of_no_entries (empty : ∀ name, node.entry? name = none) :
    ¬node.Lists sight skip path place := by
  rintro ⟨below, ⟨bytes, executable, found⟩, -⟩
  cases place with
  | nil => exact below rfl
  | cons name place =>
    rw [find?_cons_of_no_entries empty] at found
    cases found

/-- What holds a file that a walk comes to can be read itself. -/
theorem Lists.opens_path (lists : node.Lists sight skip path place) : sight.opens path = true :=
  lists.opens [] List.nil_suffix

/-- The way to a place in a directory leads through the directory, and on from what it holds. -/
theorem forall_suffix_concat_iff {p : Place → Prop} {outer : Bytes} :
    (∀ around, around <:+ place ++ [outer] → p around) ↔
      p [] ∧ ∀ around, around <:+ place → p (around ++ [outer]) := by
  constructor
  · intro all
    exact ⟨all [] List.nil_suffix,
      fun around inside => all _ (List.suffix_concat_iff.2 (.inr ⟨around, rfl, inside⟩))⟩
  · rintro ⟨first, further⟩ around inside
    rcases List.suffix_concat_iff.1 inside with rfl | ⟨around, rfl, shorter⟩
    · exact first
    · exact further around shorter

/-- The same way without the directory itself. -/
theorem forall_step_concat_iff {p : Place → Prop} {outer : Bytes} :
    (∀ inner, inner <:+ place ++ [outer] → inner ≠ [] → p inner) ↔
      ∀ inner, inner <:+ place → p (inner ++ [outer]) := by
  rw [forall_suffix_concat_iff]
  exact ⟨fun all inner inside => all.2 inner inside (by simp),
    fun all => ⟨fun empty => absurd rfl empty, fun inner inside _ => all inner inside⟩⟩

/-- A path below an entry of a directory begins with the path of the entry. -/
theorem below_concat (path outer : Bytes) (inner : Place) :
    Path.below path (inner ++ [outer]) = Path.below (Path.join path outer) inner := by
  simp [Path.below]

/-- A directory lists a file of its own if it can be read and tells of the file. -/
theorem lists_singleton_iff {name : Bytes} :
    (directory entries).Lists sight skip path [name] ↔
      sight.opens path = true ∧ sight.tells (Path.join path name) = true ∧
        ∃ bytes executable, entries.lookup name = some (.file bytes executable) := by
  constructor
  · intro lists
    exact ⟨lists.opens_path, lists.tells [name] List.suffix_rfl (by simp), lists.file⟩
  · rintro ⟨opens, tells, held⟩
    refine ⟨by simp, held, by simp, ?opens, ?tells⟩
    case opens =>
      intro around inside
      rwa [List.suffix_nil.1 inside]
    case tells =>
      rw [← List.nil_append [name], forall_step_concat_iff]
      intro inner inside
      rwa [List.suffix_nil.1 inside]

/-- Below an entry a directory lists what the entry lists, if it can be read and tells of the entry,
and if the name of the entry is not to be left out. -/
theorem lists_concat_iff {outer : Bytes} (some : place ≠ []) :
    (directory entries).Lists sight skip path (place ++ [outer]) ↔
      sight.opens path = true ∧ sight.tells (Path.join path outer) = true ∧
        outer ∉ skip.map Text.utf8 ∧ ∃ node, entries.lookup outer = .some node ∧
          node.Lists sight skip (Path.join path outer) place := by
  have tail : (place ++ [outer]).tail = place.tail ++ [outer] := List.tail_append_of_ne_nil some
  constructor
  · rintro ⟨-, ⟨bytes, executable, found⟩, kept, opens, tells⟩
    rw [find?_concat] at found
    obtain ⟨node, held, found⟩ := Option.bind_eq_some_iff.1 found
    rw [tail, List.forall_mem_append] at kept
    rw [tail, forall_suffix_concat_iff] at opens
    rw [forall_step_concat_iff] at tells
    simp only [below_concat] at opens tells
    exact ⟨opens.1, tells [] List.nil_suffix, kept.2 outer List.mem_cons_self, node, held, some,
      ⟨bytes, executable, found⟩, kept.1, opens.2, fun inner inside _ => tells inner inside⟩
  · rintro ⟨opens, tells, kept, node, held, lists⟩
    obtain ⟨bytes, executable, found⟩ := lists.file
    refine ⟨by simp, ⟨bytes, executable, ?file⟩, ?kept, ?opens, ?tells⟩
    case file =>
      rw [find?_concat]
      exact Option.bind_eq_some_iff.2 ⟨node, held, found⟩
    case kept =>
      rw [tail, List.forall_mem_append]
      exact ⟨lists.kept, List.forall_mem_singleton.2 kept⟩
    case opens =>
      rw [tail, forall_suffix_concat_iff]
      simp only [below_concat]
      exact ⟨opens, lists.opens⟩
    case tells =>
      rw [forall_step_concat_iff]
      simp only [below_concat]
      intro inner inside
      by_cases none : inner = []
      · rwa [none]
      · exact lists.tells inner inside none

/-- A directory lists its own files, and below its directories what these list. -/
theorem lists_directory_iff :
    (directory entries).Lists sight skip path place ↔
      sight.opens path = true ∧ ∃ name node, entries.lookup name = some node ∧
        sight.tells (Path.join path name) = true ∧
          ((∃ bytes executable, node = .file bytes executable ∧ place = [name]) ∨
            name ∉ skip.map Text.utf8 ∧
              ∃ inner, node.Lists sight skip (Path.join path name) inner ∧
                place = inner ++ [name]) := by
  constructor
  · intro lists
    rcases List.eq_nil_or_concat place with rfl | ⟨inner, outer, rfl⟩
    · exact absurd rfl lists.below
    rw [List.concat_eq_append] at lists ⊢
    by_cases own : inner = []
    · subst own
      obtain ⟨opens, tells, bytes, executable, held⟩ := lists_singleton_iff.1 lists
      exact ⟨opens, outer, _, held, tells, .inl ⟨bytes, executable, rfl, rfl⟩⟩
    · obtain ⟨opens, tells, kept, node, held, lists⟩ := (lists_concat_iff own).1 lists
      exact ⟨opens, outer, node, held, tells, .inr ⟨kept, inner, lists, rfl⟩⟩
  · rintro ⟨opens, outer, node, held, tells, ⟨bytes, executable, rfl, rfl⟩ | ⟨kept, inner, lists,
      rfl⟩⟩
    · exact lists_singleton_iff.2 ⟨opens, tells, bytes, executable, held⟩
    · exact (lists_concat_iff lists.below).2 ⟨opens, tells, kept, node, held, lists⟩

/-! ## What the walk lists -/

theorem filesIn_eq_flatMap (sight : Sight) (skip : List Text) (path : Bytes)
    (entries : List (Bytes × Node)) :
    filesIn sight skip path entries = entries.flatMap fun entry =>
      if sight.tells (Path.join path entry.1) then
        filesAt sight skip (Path.join path entry.1) entry.1 entry.2
      else [] := by
  induction entries with
  | nil => rw [filesIn, List.flatMap_nil]
  | cons entry entries ih => rw [filesIn, ih, List.flatMap_cons]

/-- A directory is entered unless its name is among those to be skipped, as bytes, or it cannot be
opened. -/
theorem isEntered_iff {name : Bytes} :
    isEntered sight skip path name = true ↔
      name ∉ skip.map Text.utf8 ∧ sight.opens path = true := by
  rw [isEntered, Bool.and_eq_true, Bool.not_eq_true', List.contains_eq_mem,
    decide_eq_false_iff_not]

/-- The files at a name: the file that stands there, or those below the directory that is entered
there. -/
theorem mem_filesAt_iff {name : Bytes} :
    place ∈ filesAt sight skip path name node ↔
      (∃ bytes executable, node = .file bytes executable ∧ place = [name]) ∨
        isEntered sight skip path name = true ∧
          ∃ inner ∈ node.files sight skip path, place = inner ++ [name] := by
  cases node with
  | file bytes executable => simp [filesAt, files]
  | directory entries =>
    cases entered : isEntered sight skip path name <;> simp [filesAt, files, entered, eq_comm]
  | link | pipe => simp [filesAt, files]

/-- A walk lists the places that it comes to, if the directory that it starts from can be read. -/
theorem mem_files_iff (proper : node.Proper) (opens : sight.opens path = true) :
    place ∈ node.files sight skip path ↔ node.Lists sight skip path place := by
  induction proper generalizing path place with
  | file bytes executable =>
    simp only [files, List.not_mem_nil, false_iff]
    exact not_lists_of_no_entries fun _ => rfl
  | link | pipe =>
    simp only [files, List.not_mem_nil, false_iff]
    exact not_lists_of_no_entries fun _ => rfl
  | @directory entries distinct _ below ih =>
    rw [lists_directory_iff, files, filesIn_eq_flatMap, List.mem_flatMap]
    constructor
    · rintro ⟨⟨name, node⟩, mem, found⟩
      rw [List.mem_ite_nil_right] at found
      obtain ⟨tells, found⟩ := found
      refine ⟨opens, name, node, (lookup_eq_some_iff_mem distinct).2 mem, tells, ?_⟩
      refine (mem_filesAt_iff.1 found).imp_right ?_
      rintro ⟨entered, inner, found, split⟩
      obtain ⟨kept, opens⟩ := isEntered_iff.1 entered
      exact ⟨kept, inner, (ih _ mem opens).1 found, split⟩
    · rintro ⟨-, name, node, held, tells, lists⟩
      have mem := (lookup_eq_some_iff_mem distinct).1 held
      refine ⟨(name, node), mem, List.mem_ite_nil_right.2 ⟨tells, mem_filesAt_iff.2 ?_⟩⟩
      refine lists.imp_right ?_
      rintro ⟨kept, inner, lists, split⟩
      have opens := lists.opens_path
      exact ⟨isEntered_iff.2 ⟨kept, opens⟩, inner, (ih _ mem opens).2 lists, split⟩

/-! ## No file is listed twice -/

/-- What is listed at an entry has the name of the entry around it. -/
theorem getLast?_of_mem_filesAt {name : Bytes}
    (mem : place ∈ filesAt sight skip path name node) : place.getLast? = some name := by
  rcases mem_filesAt_iff.1 mem with ⟨bytes, executable, -, rfl⟩ | ⟨-, inner, -, rfl⟩
  · rfl
  · exact List.getLast?_concat

theorem nodup_filesAt {name : Bytes} (below : (node.files sight skip path).Nodup) :
    (filesAt sight skip path name node).Nodup := by
  cases node with
  | file => simp [filesAt]
  | directory entries =>
    rw [filesAt]
    split
    · exact List.Nodup.map (fun _ _ same => List.append_cancel_right same) below
    · exact List.nodup_nil
  | link | pipe => simp [filesAt]

/-- In a tree with distinct names no file is listed twice. -/
theorem nodup_files (sight : Sight) (skip : List Text) (path : Bytes) (proper : node.Proper) :
    (node.files sight skip path).Nodup := by
  induction proper generalizing path with
  | file | link | pipe => simp [files]
  | @directory entries distinct _ _ ih =>
    rw [files, filesIn_eq_flatMap, List.nodup_flatMap]
    constructor
    · intro entry mem
      split
      · exact nodup_filesAt (ih entry mem _)
      · exact List.nodup_nil
    · rw [List.nodup_iff_pairwise_ne, List.pairwise_map] at distinct
      refine distinct.imp fun {entry other} different place found found' => ?_
      rw [List.mem_ite_nil_right] at found found'
      have name := getLast?_of_mem_filesAt found.2
      rw [getLast?_of_mem_filesAt found'.2] at name
      exact different (Option.some.inj name).symm

/-! ## The order of the entries -/

theorem face_eq_file_iff {bytes : Bytes} {executable : Bool} :
    node.face = .file bytes executable ↔ node = .file bytes executable := by
  cases node <;> simp [face]

/-- A walk comes to the same files, whatever the order of the entries. -/
theorem Alike.lists_iff {other : Node} (alike : node.Alike other) :
    node.Lists sight skip path place ↔ other.Lists sight skip path place := by
  have found (bytes : Bytes) (executable : Bool) :
      node.find? place = some (.file bytes executable) ↔
        other.find? place = some (.file bytes executable) := by
    have same : ((node.find? place).map face = some (.file bytes executable)) =
        ((other.find? place).map face = some (.file bytes executable)) := by
      rw [alike]
    simpa [Option.map_eq_some_iff, face_eq_file_iff] using same
  constructor
  · rintro ⟨below, ⟨bytes, executable, file⟩, kept, opens, tells⟩
    exact ⟨below, ⟨bytes, executable, (found bytes executable).1 file⟩, kept, opens, tells⟩
  · rintro ⟨below, ⟨bytes, executable, file⟩, kept, opens, tells⟩
    exact ⟨below, ⟨bytes, executable, (found bytes executable).2 file⟩, kept, opens, tells⟩

end Node

namespace Disk

variable {sight : Sight} {skip : List Text} {root : Bytes} {entries : List (Bytes × Node)}

/-! ## The places listed -/

/-- What is listed are the files that can be reached through directories that are entered. -/
theorem mem_listed_iff (sight : Sight) (root : Bytes) (skip : List Text) (place : Place)
    (proper : (Node.directory entries).Proper) :
    place ∈ listed sight root skip entries ↔
      (Node.directory entries).Lists sight skip root place := by
  rw [listed, List.mem_ite_nil_right]
  constructor
  · exact fun ⟨opens, mem⟩ => (Node.mem_files_iff proper opens).1 mem
  · exact fun lists => ⟨lists.opens_path, (Node.mem_files_iff proper lists.opens_path).2 lists⟩

/-- No place is listed twice. -/
theorem nodup_listed (proper : (Node.directory entries).Proper) :
    (listed sight root skip entries).Nodup := by
  rw [listed]
  split
  · exact Node.nodup_files sight skip root proper
  · exact List.nodup_nil

/-- Trees that differ in the order of their entries list the same places. -/
theorem perm_listed_of_alike (sight : Sight) (root : Bytes) (skip : List Text)
    {others : List (Bytes × Node)}
    (alike : (Node.directory entries).Alike (.directory others))
    (proper : (Node.directory entries).Proper) (proper' : (Node.directory others).Proper) :
    (listed sight root skip entries).Perm (listed sight root skip others) := by
  rw [List.perm_ext_iff_of_nodup (nodup_listed proper) (nodup_listed proper')]
  intro place
  rw [mem_listed_iff _ _ _ _ proper, mem_listed_iff _ _ _ _ proper', alike.lists_iff]

/-! ## Lists in order -/

theorem pairwise_isAtMost_sorted (texts : List Text) :
    (sorted texts).Pairwise fun s t => Text.isAtMost s t = true := by
  apply List.pairwise_mergeSort
  · intro s t u first second
    rw [Text.isAtMost_iff, List.not_lt] at first second ⊢
    exact List.le_trans first second
  · intro s t
    rw [Bool.or_eq_true, Text.isAtMost_iff, Text.isAtMost_iff, List.not_lt, List.not_lt]
    exact List.le_total s t

theorem eq_of_isAtMost {s t : Text} (first : Text.isAtMost s t = true)
    (second : Text.isAtMost t s = true) : s = t := by
  rw [Text.isAtMost_iff, List.not_lt] at first second
  exact List.le_antisymm first second

/-- The order of the texts is that of their bytes. -/
theorem utf8_lt_of_isAtMost {s t : Text} (atMost : Text.isAtMost s t = true) (different : s ≠ t) :
    Text.utf8 s < Text.utf8 t := by
  refine Text.utf8_lt (Decidable.byContradiction fun least => different ?_)
  exact eq_of_isAtMost atMost (Text.isAtMost_iff.2 least)

/-- A list that is put in order never falls, in the order of bytes. -/
theorem pairwise_sorted (texts : List Text) :
    (sorted texts).Pairwise fun s t => Text.utf8 s ≤ Text.utf8 t := by
  refine (pairwise_isAtMost_sorted texts).imp fun {s t} atMost => ?_
  by_cases same : s = t
  · rw [same]
    exact List.le_refl _
  · exact List.le_of_lt (utf8_lt_of_isAtMost atMost same)

/-- It rises throughout exactly if nothing is in the list twice. -/
theorem pairwise_sorted_lt_iff {texts : List Text} :
    ((sorted texts).Pairwise fun s t => Text.utf8 s < Text.utf8 t) ↔ texts.Nodup := by
  have nodup : (sorted texts).Nodup ↔ texts.Nodup := (List.mergeSort_perm _ _).nodup_iff
  rw [← nodup]
  constructor
  · refine fun rising => rising.imp fun {s t} less same => ?_
    rw [same] at less
    exact List.lt_irrefl _ less
  · intro distinct
    refine ((pairwise_isAtMost_sorted texts).and distinct).imp fun {s t} both => ?_
    exact utf8_lt_of_isAtMost both.1 both.2

theorem sorted_eq_of_perm {texts others : List Text} (perm : texts.Perm others) :
    sorted texts = sorted others :=
  List.Perm.eq_of_pairwise (fun _ _ _ _ => eq_of_isAtMost) (pairwise_isAtMost_sorted texts)
    (pairwise_isAtMost_sorted others)
    ((List.mergeSort_perm _ _).trans (perm.trans (List.mergeSort_perm _ _).symm))

/-! ## Walks -/

variable {disk other : Disk} {cwd : Place}

/-- What a path leads to stands at a place. -/
theorem exists_place_of_find {path : Bytes} {node : Node} (found : disk.find cwd path = .ok node) :
    ∃ place, disk.root.find? place = some node := by
  rw [find] at found
  split at found
  · cases found
  · rename_i place located
    refine ⟨place, ?_⟩
    split at found
    · rename_i stands
      obtain rfl := Except.ok.inj found
      exact stands
    · cases found

/-- A walk lists the same, whatever the order of the entries in each directory. -/
theorem walk_of_reordered (proper : disk.root.Proper) (reordered : disk.root.Reordered other.root) :
    other.walk sight cwd root skip = disk.walk sight cwd root skip := by
  have alike := reordered.alike proper
  have proper' := reordered.proper proper
  rw [walk, walk, find, find, locate_of_alike alike]
  cases located : other.locate .follow cwd root with
  | error cause => rfl
  | ok place =>
    have same : (disk.at? place).map Node.face = (other.at? place).map Node.face := alike place
    cases found : disk.at? place with
    | none =>
      rw [found, Option.map_none, eq_comm, Option.map_eq_none_iff] at same
      simp only [found, same]
    | some node =>
      rw [found, Option.map_some, eq_comm, Option.map_eq_some_iff] at same
      obtain ⟨node', found', face⟩ := same
      have alike := alike.find? found found'
      have proper := proper.find? found
      have proper' := proper'.find? found'
      simp only [found, found']
      -- Only directories have more to them than their faces.
      cases node <;> cases node' <;> simp only [Node.face, reduceCtorEq] at face <;> try rfl
      case directory.directory entries others =>
        have perm := perm_listed_of_alike sight root skip alike proper proper'
        exact congrArg Except.ok (sorted_eq_of_perm (perm.map Place.shown)).symm

/-- An empty page. -/
def leaf : Node := .file [] false

/-- What the directory of a grove holds: pages, two of them with names that are no texts, one under
a name to be left out, a link back to the root and a pipe. -/
def groveEntries : List (Bytes × Node) :=
  [(Text.utf8 "a".toList, .directory
      [(Text.utf8 "up".toList, .link (Text.utf8 "..".toList)), (Text.utf8 "x".toList, leaf)]),
    (Text.utf8 "a.c".toList, leaf), (Text.utf8 "a-b".toList, leaf),
    ([0xFF], leaf), ([0xFE], leaf),
    (Text.utf8 "target".toList, .directory [(Text.utf8 "lost".toList, leaf)]),
    (Text.utf8 "docs".toList, .directory
      [(Text.utf8 "target".toList, leaf), (Text.utf8 "queue".toList, .pipe [])]),
    (Text.utf8 "shut".toList, .directory [(Text.utf8 "page".toList, leaf)])]

/-- A grove, with a link to its directory. -/
def grove : Disk :=
  ⟨.directory [(Text.utf8 "here".toList, .link (Text.utf8 "r".toList)),
    (Text.utf8 "r".toList, .directory groveEntries)]⟩

/-- The grove as it is listed from its other end. -/
def turnedGrove : Disk :=
  ⟨.directory [(Text.utf8 "r".toList, .directory groveEntries.reverse),
    (Text.utf8 "here".toList, .link (Text.utf8 "r".toList))]⟩

/-- A system that does not let one directory of the grove be read. -/
def groveSight : Sight where
  opens path := !path == Text.utf8 "/here/shut".toList
  tells _ := true

/-- The path of the grove's directory through the link. -/
def groveRoot : Bytes := Text.utf8 "/here".toList

theorem proper_grove : grove.root.Proper := by
  have entries : (Node.directory groveEntries).Proper := by
    refine .directory (by decide) (by decide) ?_
    simp only [groveEntries, List.forall_mem_cons, List.not_mem_nil, false_imp_iff, implies_true,
      and_true]
    refine ⟨.directory (by decide) (by decide) ?_, .file _ _, .file _ _, .file _ _, .file _ _,
      .directory (by decide) (by decide) ?_, .directory (by decide) (by decide) ?_,
      .directory (by decide) (by decide) ?_⟩
    all_goals
      simp only [List.forall_mem_cons, List.not_mem_nil, false_imp_iff, implies_true, and_true]
    · exact ⟨.link _, .file _ _⟩
    · exact .file _ _
    · exact ⟨.file _ _, .pipe _⟩
    · exact .file _ _
  refine .directory (by decide) (by decide) ?_
  simp only [List.forall_mem_cons, List.not_mem_nil, false_imp_iff, implies_true, and_true]
  exact ⟨.link _, entries⟩

theorem reordered_grove : grove.root.Reordered turnedGrove.root :=
  .trans (.entries (.swap _ _ _))
    (.inside [] (Text.utf8 "r".toList) _ (.entries (List.reverse_perm groveEntries).symm))

/-- What is listed of the grove. -/
def groveFiles : List Text :=
  ["a-b".toList, "a.c".toList, "a/x".toList, "docs/target".toList, [Text.replacement],
    [Text.replacement]]

theorem find_grove : grove.find [] groveRoot = .ok (.directory groveEntries) := by cbv

theorem sorted_listed_grove :
    sorted ((listed groveSight groveRoot ["target".toList] groveEntries).map Place.shown) =
      groveFiles := by
  have places : listed groveSight groveRoot ["target".toList] groveEntries =
      [[Text.utf8 "x".toList, Text.utf8 "a".toList], [Text.utf8 "a.c".toList],
        [Text.utf8 "a-b".toList], [[0xFF]], [[0xFE]],
        [Text.utf8 "target".toList, Text.utf8 "docs".toList]] := by
    decide +kernel
  have shown : (listed groveSight groveRoot ["target".toList] groveEntries).map Place.shown =
      ["a/x".toList, "a.c".toList, "a-b".toList, [Text.replacement], [Text.replacement],
        "docs/target".toList] := by
    rw [places]
    cbv
  have perm : ["a/x".toList, "a.c".toList, "a-b".toList, [Text.replacement], [Text.replacement],
      "docs/target".toList].Perm groveFiles := by
    decide
  rw [shown, sorted_eq_of_perm perm]
  exact List.mergeSort_of_pairwise (by decide)

/-- The directory of the grove, by a path with slashes at its end. -/
def slashedRoot (count : Nat) : Bytes :=
  PathSign.slash :: 0x72 :: List.replicate count PathSign.slash

theorem length_slashedRoot (count : Nat) : (slashedRoot count).length = count + 2 := by
  simp [slashedRoot]

theorem getLast?_slashedRoot (count : Nat) :
    (slashedRoot (count + 1)).getLast? = some PathSign.slash := by
  rw [slashedRoot, List.replicate_succ', ← List.cons_append, ← List.cons_append,
    List.getLast?_concat]

theorem join_slashedRoot (count : Nat) {name : Bytes} (relative : Path.isAbsolute name = false) :
    Path.join (slashedRoot (count + 1)) name = slashedRoot (count + 1) ++ name := by
  simp only [Path.join, relative, Bool.false_eq_true, if_false, getLast?_slashedRoot, if_true]

theorem steps_slashedRoot (count : Nat) :
    Path.steps (slashedRoot (count + 1)) = [Text.utf8 "r".toList, Path.self] := by
  have slashes (count : Nat) :
      Text.splitAt (PathSign.slash : UInt8) (List.replicate count PathSign.slash) =
        [] :: List.replicate count [] := by
    induction count with
    | zero => rfl
    | succ count ih => rw [List.replicate_succ, Text.splitAt, if_pos rfl, ih, List.replicate_succ]
  have names : Path.names (slashedRoot (count + 1)) = [Text.utf8 "r".toList] := by
    rw [Path.names, slashedRoot, Text.splitAt, if_pos rfl, Text.splitAt, if_neg (by decide),
      slashes]
    simp
    rfl
  rw [Path.steps, names, getLast?_slashedRoot]
  rfl

/-- A root with many slashes behind it leads to the same directory, as long as it is a path. -/
theorem find_slashedRoot {count : Nat} (short : count + 3 ≤ maxPath) :
    grove.find [] (slashedRoot (count + 1)) = .ok (.directory groveEntries) := by
  have nul : (slashedRoot (count + 1)).contains 0 = false := by
    have slash : (0 : UInt8) ≠ PathSign.slash := by decide
    simp [slashedRoot, slash]
  have short : ¬maxPath < (slashedRoot (count + 1)).length := by
    rw [length_slashedRoot]
    exact Nat.not_lt.2 short
  have given : slashedRoot (count + 1) ≠ [] := List.cons_ne_nil _ _
  have absolute : Path.isAbsolute (slashedRoot (count + 1)) = true := rfl
  have located :
      grove.locate .follow [] (slashedRoot (count + 1)) = .ok [Text.utf8 "r".toList] := by
    rw [locate, if_neg given, nul, if_neg Bool.false_ne_true, if_neg short, absolute, if_pos rfl,
      steps_slashedRoot]
    cbv
  rw [find, located]
  rfl

/-- Below a root whose path is as long as a path may be, no directory is entered. -/
theorem isEntered_slashedRoot {name : Bytes} (named : name ≠ [])
    (relative : Path.isAbsolute name = false) :
    Node.isEntered .full ["target".toList] (Path.join (slashedRoot 4093) name) name = false := by
  have long := List.length_pos_iff.2 named
  rw [← Bool.not_eq_true, Node.isEntered_iff, join_slashedRoot 4092 relative,
    Sight.opens_full_iff, List.length_append, length_slashedRoot, maxPath]
  omega

/-- So only what the directory itself holds is listed. -/
theorem listed_slashedRoot :
    listed .full (slashedRoot 4093) ["target".toList] groveEntries =
      [[Text.utf8 "a.c".toList], [Text.utf8 "a-b".toList], [[0xFF]], [[0xFE]]] := by
  have entered (s : Text) (named : Text.utf8 s ≠ [])
      (relative : Path.isAbsolute (Text.utf8 s) = false) :=
    isEntered_slashedRoot named relative
  have opens : Sight.full.opens (slashedRoot 4093) = true := by
    rw [Sight.opens_full_iff, length_slashedRoot]
    decide
  have tells (path : Bytes) : Sight.full.tells path = true := rfl
  rw [listed, opens, if_pos rfl, groveEntries]
  simp only [Node.filesIn, Node.filesAt, tells, leaf, if_true,
    entered "a".toList (by decide) rfl, entered "target".toList (by decide) rfl,
    entered "docs".toList (by decide) rfl, entered "shut".toList (by decide) rfl,
    Bool.false_eq_true, if_false, List.nil_append, List.cons_append]

end Disk

end CheckoutLint
