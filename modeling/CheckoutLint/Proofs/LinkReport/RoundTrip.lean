import CheckoutLint.LinkReport
import CheckoutLint.Proofs.PathTable.LongestMatch

/-!
Reports as they are written, and what reading one gives back. A report is a list of blocks; a block
is a line with the temp path of a file and the lines of its entries. Reading a report restores the
temp path of each block, passes over the good links and gives the broken ones back with the reason
that was written for them, unless the reason is one of those that say nothing of the link.

* `lines_unlines`: lines that are written out are read back.
* `findings_entries`: what the entries of one block give, whatever follows them.
* `warnings_unlines`: what a whole report gives.
-/

namespace CheckoutLint

namespace Text

/-- The lines one after the other, each ended by a line feed. -/
def unlines (lines : List Text) : Text := lines.flatMap fun line => line ++ ['\n']

/-- Whether a text can stand on a line of its own. -/
def IsLine (s : Text) : Prop := '\n' ∉ s ∧ '\r' ∉ s

instance (s : Text) : Decidable (IsLine s) := inferInstanceAs (Decidable (_ ∧ _))

theorem IsLine.append {s t : Text} (left : IsLine s) (right : IsLine t) : IsLine (s ++ t) :=
  ⟨by simp [left.1, right.1], by simp [left.2, right.2]⟩

/-- Lines that are written are read back. -/
theorem lines_unlines {texts : List Text} (single : ∀ line ∈ texts, IsLine line) :
    lines (unlines texts) = texts := by
  induction texts with
  | nil => rfl
  | cons line texts ih =>
    obtain ⟨noFeed, noReturn⟩ := single line List.mem_cons_self
    have rest := ih fun other mem => single other (List.mem_cons_of_mem _ mem)
    have split : unlines (line :: texts) = line ++ '\n' :: unlines texts := by simp [unlines]
    rw [split, lines_append_newline noFeed noReturn, rest]

theorem trim_append {blanks : Text} (blank : ∀ c ∈ blanks, isBlank c = true) (s : Text) :
    trim (blanks ++ s) = trim s := by
  rw [trim, trim, trimStart, trimStart, List.dropWhile_append_of_pos blank]

theorem trim_eq_self {s : Text} (start : ∀ c ∈ s.head?, isBlank c = false)
    (ending : ∀ c ∈ s.getLast?, isBlank c = false) : trim s = s := by
  rw [trim, trimStart_eq_self_iff.2 start, trimEnd_eq_self_iff.2 ending]

end Text

namespace LinkReport

/-! ## Writing -/

/-- What a report says of one link. -/
inductive Entry where
  | good (url : Text)
  | broken (url detail : Text)
  deriving DecidableEq, Repr

/-- What a report says of one file. -/
structure Block where
  file : Candidate
  entries : List Entry
  deriving DecidableEq, Repr

/-- The lines of an entry. -/
def Entry.lines : Entry → List Text
  | .good url => ["\tOK\t".toList ++ url]
  | .broken url detail => ["\tERROR\t".toList ++ url, "\t\t".toList ++ detail]

/-- The lines of a block: the temp path of its file, and the lines of its entries. -/
def Block.lines (block : Block) : List Text :=
  block.file.tempPath :: block.entries.flatMap Entry.lines

/-- Reasons that say something of the link. -/
def IsTelling (detail : Text) : Prop :=
  detail ≠ "Timeout".toList ∧ ¬ "no such file".toList <:+: detail ∧
    ¬ "root directory is not specified".toList <:+: detail

/-- A reason is told just if it is none of those to be ignored. -/
theorem isIgnored_eq_false_iff {detail : Text} : isIgnored detail = false ↔ IsTelling detail := by
  simp only [isIgnored, IsTelling, Bool.or_eq_false_iff, beq_eq_false_iff_ne, and_assoc,
    ← Text.occursIn_iff, Bool.not_eq_true]

theorem isIgnored_eq_true_iff {detail : Text} : isIgnored detail = true ↔ ¬ IsTelling detail := by
  rw [← isIgnored_eq_false_iff, Bool.not_eq_false]

instance (detail : Text) : Decidable (IsTelling detail) :=
  decidable_of_iff _ isIgnored_eq_false_iff

/-- What is to be said of an entry, under the path of its file. -/
def Entry.warning? (path : Text) : Entry → Option Text
  | .good _ => none
  | .broken url detail =>
    if IsTelling detail then some (path ++ ": ".toList ++ url ++ ": ".toList ++ detail) else none

/-- What is to be said of the entries of a block, in order. -/
def Block.warnings (block : Block) : List Text :=
  block.entries.filterMap (Entry.warning? block.file.path)

/-! ## What can be read back -/

/-- Entries that can be read back: their texts stand on one line, a good link does not look like an
error, a broken one does not begin with what stands before links, and its reason is trimmed. -/
inductive Entry.IsReadable : Entry → Prop
  | good {url : Text} : Text.IsLine url → ¬ "ERROR".toList <:+: url → IsReadable (.good url)
  | broken {url detail : Text} :
    Text.IsLine url → Text.IsLine detail → (∀ c ∈ url.head?, c ∉ ['\t', ' ', 'E', 'R', 'O']) →
    (∀ c ∈ detail.head?, isBlank c = false) → (∀ c ∈ detail.getLast?, isBlank c = false) →
    IsReadable (.broken url detail)

/-- Files whose temp paths can be told apart and can stand as headers. -/
structure HaveHeaders (files : List Candidate) : Prop where
  distinct : (files.map Candidate.tempPath).Nodup
  ne_nil : ∀ file ∈ files, file.tempPath ≠ []
  isLine : ∀ file ∈ files, Text.IsLine file.tempPath
  flush : ∀ file ∈ files, file.tempPath.head? ≠ some '\t'

/-- What a readable entry writes are lines. -/
theorem Entry.IsReadable.isLine {entry : Entry} (readable : entry.IsReadable) :
    ∀ line ∈ entry.lines, Text.IsLine line := by
  have mark : Text.IsLine "\tOK\t".toList ∧ Text.IsLine "\tERROR\t".toList ∧
      Text.IsLine "\t\t".toList := by
    simp [Text.IsLine]
  intro line mem
  cases readable with
  | good url _ =>
    rw [List.mem_singleton.1 mem]
    exact mark.1.append url
  | broken url detail _ _ _ =>
    rcases List.mem_cons.1 mem with rfl | mem
    · exact mark.2.1.append url
    · rw [List.mem_singleton.1 mem]
      exact mark.2.2.append detail

theorem HaveHeaders.isHeader {files : List Candidate} (headers : HaveHeaders files)
    {file : Candidate} (mem : file ∈ files) : isHeader file.tempPath = true := by
  simp [LinkReport.isHeader, isIndented, headers.ne_nil file mem, headers.flush file mem]

/-- With distinct temp paths a header is restored to the path of its file. -/
theorem HaveHeaders.restore {files : List Candidate} (headers : HaveHeaders files)
    {file : Candidate} (mem : file ∈ files) :
    (PathTable.ofCandidates files).restore file.tempPath = file.path :=
  (PathTable.isArranged_ofCandidates files).restore_temp (headers.ne_nil file mem)
    (PathTable.isLastPath_of_nodup headers.distinct mem)

/-! ## Reading the lines of an entry -/

theorem isHeader_good (url : Text) : isHeader ("\tOK\t".toList ++ url) = false := by
  simp [isHeader, isIndented]

/-- The text `ERROR` cannot begin in what stands before a good link. -/
theorem isError_good {url : Text} (calm : ¬ "ERROR".toList <:+: url) :
    isError ("\tOK\t".toList ++ url) = false := by
  rw [Bool.eq_false_iff]
  intro error
  simp only [isError, Bool.and_eq_true, Text.occursIn_iff] at error
  have inside := error.2
  simp [List.infix_cons_iff] at inside
  exact calm inside

theorem isError_broken (url : Text) : isError ("\tERROR\t".toList ++ url) = true := by
  have found : "ERROR".toList <:+: "\tERROR\t".toList ++ url := ⟨['\t'], '\t' :: url, by simp⟩
  simp only [isError, Bool.and_eq_true, Text.occursIn_iff]
  exact ⟨by simp [isIndented], found⟩

/-- Of an error line all leading blanks and letters of the mark are dropped. -/
theorem urlOf_eq (line : Text) :
    urlOf line = line.dropWhile fun c => c ∈ ['\t', ' ', 'E', 'R', 'O'] := by
  rw [urlOf]
  congr 1
  funext c
  simp [isMarker, Bool.or_assoc]

/-- With the mark goes every character behind it that could be part of one. -/
theorem urlOf_marked (url : Text) :
    urlOf ("\tERROR\t".toList ++ url) = url.dropWhile fun c => c ∈ ['\t', ' ', 'E', 'R', 'O'] := by
  have mark : ∀ c ∈ "\tERROR\t".toList, decide (c ∈ ['\t', ' ', 'E', 'R', 'O']) = true := by simp
  rw [urlOf_eq, List.dropWhile_append_of_pos mark]

/-- Nothing more goes exactly if the link does not begin with such a character. -/
theorem dropWhile_marks_eq_self_iff {url : Text} :
    (url.dropWhile fun c => c ∈ ['\t', ' ', 'E', 'R', 'O']) = url ↔
      ∀ c ∈ url.head?, c ∉ ['\t', ' ', 'E', 'R', 'O'] := by
  rw [List.dropWhile_eq_self_iff]
  cases url <;> simp

theorem urlOf_broken {url : Text} (start : ∀ c ∈ url.head?, c ∉ ['\t', ' ', 'E', 'R', 'O']) :
    urlOf ("\tERROR\t".toList ++ url) = url :=
  (urlOf_marked url).trans (dropWhile_marks_eq_self_iff.2 start)

theorem trim_indented (detail : Text) : Text.trim ("\t\t".toList ++ detail) = Text.trim detail :=
  Text.trim_append (by simp [isBlank]) detail

theorem trim_detail {detail : Text} (start : ∀ c ∈ detail.head?, isBlank c = false)
    (ending : ∀ c ∈ detail.getLast?, isBlank c = false) :
    Text.trim ("\t\t".toList ++ detail) = detail :=
  (trim_indented detail).trans (Text.trim_eq_self start ending)

/-- The lines of an entry give its warning, and leave the page as it is for what follows. -/
theorem findings_entry {table : PathTable} {page : Text} {entry : Entry}
    (readable : entry.IsReadable) (rest : List Text) :
    (findings table page (entry.lines ++ rest)).map BrokenLink.warning =
      (entry.warning? page).toList ++ (findings table page rest).map BrokenLink.warning := by
  cases readable with
  | @good url _ calm =>
    rw [Entry.lines, List.singleton_append,
      findings_of_skipped (isHeader_good url) (isError_good calm)]
    rfl
  | @broken url detail _ _ start head last =>
    rw [Entry.lines, List.cons_append, List.singleton_append,
      findings_of_error (isError_broken url), trim_detail head last, urlOf_broken start]
    by_cases telling : IsTelling detail
    · have kept := isIgnored_eq_false_iff.2 telling
      simp [kept, Entry.warning?, telling, BrokenLink.warning]
    · have ignored := isIgnored_eq_true_iff.2 telling
      simp [ignored, Entry.warning?, telling]

/-- The entries of a block give their warnings in order, whatever follows them. -/
theorem findings_entries {table : PathTable} {page : Text} {entries : List Entry}
    (readable : ∀ entry ∈ entries, entry.IsReadable) (rest : List Text) :
    (findings table page (entries.flatMap Entry.lines ++ rest)).map BrokenLink.warning =
      entries.filterMap (Entry.warning? page) ++
        (findings table page rest).map BrokenLink.warning := by
  induction entries with
  | nil => rfl
  | cons entry entries ih =>
    have first := readable entry List.mem_cons_self
    have others := ih fun other mem => readable other (List.mem_cons_of_mem _ mem)
    rw [List.flatMap_cons, List.append_assoc, findings_entry first, others, ← List.append_assoc]
    cases warned : entry.warning? page <;> simp [warned]

/-! ## Reading a report -/

/-- The page that a block begins on does not matter: its header names the one that counts. -/
theorem findings_blocks {files : List Candidate} (headers : HaveHeaders files)
    {blocks : List Block} (listed : ∀ block ∈ blocks, block.file ∈ files)
    (readable : ∀ block ∈ blocks, ∀ entry ∈ block.entries, entry.IsReadable) (page : Text) :
    (findings (PathTable.ofCandidates files) page (blocks.flatMap Block.lines)).map
        BrokenLink.warning = blocks.flatMap Block.warnings := by
  induction blocks generalizing page with
  | nil => rfl
  | cons block blocks ih =>
    have file := listed block List.mem_cons_self
    have others := ih (fun other mem => listed other (List.mem_cons_of_mem _ mem))
      fun other mem => readable other (List.mem_cons_of_mem _ mem)
    rw [List.flatMap_cons, Block.lines, List.cons_append,
      findings_of_header (headers.isHeader file), headers.restore file,
      findings_entries (readable block List.mem_cons_self), others]
    rfl

/-- Reading a report that was written out gives, block by block and entry by entry, the warnings for
the broken links whose reasons say something of them. -/
theorem warnings_unlines {files : List Candidate} (headers : HaveHeaders files)
    {blocks : List Block} (listed : ∀ block ∈ blocks, block.file ∈ files)
    (readable : ∀ block ∈ blocks, ∀ entry ∈ block.entries, entry.IsReadable) :
    warnings (PathTable.ofCandidates files) (Text.unlines (blocks.flatMap Block.lines)) =
      blocks.flatMap Block.warnings := by
  have single : ∀ line ∈ blocks.flatMap Block.lines, Text.IsLine line := by
    intro line mem
    obtain ⟨block, found, mem⟩ := List.mem_flatMap.1 mem
    rcases List.mem_cons.1 mem with rfl | mem
    · exact headers.isLine _ (listed block found)
    · obtain ⟨entry, inside, mem⟩ := List.mem_flatMap.1 mem
      exact (readable block found entry inside).isLine line mem
  rw [warnings, read, Text.lines_unlines single]
  exact findings_blocks headers listed readable []

/-- Two pages, the temp path of one being the beginning of the other's. -/
def nestedPages : List Candidate :=
  [Candidate.ofPaths "/t/0-TODO".toList "TODO".toList,
    Candidate.ofPaths "/t/0-TODO.md".toList "docs/TODO.md".toList]

/-- A report with a page that comes twice, a reason that is empty and one that tells nothing. -/
def nestedBlocks : List Block :=
  [⟨Candidate.ofPaths "/t/0-TODO.md".toList "docs/TODO.md".toList,
      [.good "https://a.test".toList, .broken "b.test/OK".toList "404".toList]⟩,
    ⟨Candidate.ofPaths "/t/0-TODO".toList "TODO".toList,
      [.broken [] "Timeout".toList, .broken "c".toList []]⟩,
    ⟨Candidate.ofPaths "/t/0-TODO.md".toList "docs/TODO.md".toList, []⟩]

/-- Blocks of files whose temp paths begin one another, one of them repeated, with a reason that is
ignored. -/
theorem warnings_nestedBlocks :
    HaveHeaders nestedPages ∧ (∀ block ∈ nestedBlocks, block.file ∈ nestedPages) ∧
      (∀ block ∈ nestedBlocks, ∀ entry ∈ block.entries, entry.IsReadable) ∧
      warnings (PathTable.ofCandidates nestedPages)
          (Text.unlines (nestedBlocks.flatMap Block.lines)) =
        ["docs/TODO.md: b.test/OK: 404".toList, "TODO: c: ".toList] := by
  have headers : HaveHeaders nestedPages := ⟨by decide, by decide, by decide, by decide⟩
  have listed : ∀ block ∈ nestedBlocks, block.file ∈ nestedPages := by decide
  have readable : ∀ block ∈ nestedBlocks, ∀ entry ∈ block.entries, entry.IsReadable := by
    simp only [nestedBlocks, List.forall_mem_cons, List.not_mem_nil, false_implies, implies_true,
      and_true]
    refine ⟨⟨.good (by decide) ?_, .broken ?_ ?_ ?_ ?_ ?_⟩, .broken ?_ ?_ ?_ ?_ ?_,
      .broken ?_ ?_ ?_ ?_ ?_⟩
    · rw [← Text.occursIn_iff]
      decide
    all_goals simp [Text.IsLine, isBlank]
  exact ⟨headers, listed, readable, (warnings_unlines headers listed readable).trans (by decide)⟩

end LinkReport

end CheckoutLint
