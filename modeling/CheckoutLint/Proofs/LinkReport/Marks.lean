import CheckoutLint.Proofs.LinkReport.Composition

/-!
The marks in front of links. A report marks a good link with `OK` and a broken one with `ERROR`,
each between tabs. Reading goes by characters and not by marks. A line is an error if `ERROR` stands
anywhere in it, in its link too; and what is removed from the front of an error are all characters
that the mark is made of, those that the link begins with too.

* `warnings_broken_iff`: the link in a warning is the one that was reported exactly if that begins
  with none of these characters; `warnings_readmeLink` is a link that loses its first letters.
* `insert_good_iff`: one good link more changes no report exactly if `ERROR` does not stand in it;
  `warnings_loudLink` is a good link that hides a broken one.
-/

namespace CheckoutLint

namespace LinkReport

/-- Blocks as they stand in a report: the header names a page, and every line is one line. -/
structure Block.IsWritten (block : Block) : Prop where
  named : block.file.tempPath ≠ []
  flush : block.file.tempPath.head? ≠ some '\t'
  isLine : ∀ line ∈ block.lines, Text.IsLine line

/-- Entries that are read as they are meant: no good link looks like an error. -/
def Entry.IsCalm : Entry → Prop
  | .good url => ¬ "ERROR".toList <:+: url
  | .broken _ _ => True

variable {table : PathTable} {page : Text} {files : List Candidate} {file : Candidate}
  {block : Block} {url detail : Text}

theorem Block.IsWritten.isHeader (written : block.IsWritten) :
    isHeader block.file.tempPath = true := by
  simp [LinkReport.isHeader, isIndented, written.named, written.flush]

theorem lines_unlines_blocks {blocks : List Block} (written : ∀ block ∈ blocks, block.IsWritten) :
    Text.lines (Text.unlines (blocks.flatMap Block.lines)) = blocks.flatMap Block.lines := by
  refine Text.lines_unlines fun line mem => ?_
  obtain ⟨block, found, mem⟩ := List.mem_flatMap.1 mem
  exact (written block found).isLine line mem

/-! ## Broken links -/

/-- A report of one broken link, with a trimmed reason that says something of it, gives one warning,
in which the link has lost the tabs, blanks and letters `E`, `R` and `O` at its front. -/
theorem warnings_broken (table : PathTable)
    (written : Block.IsWritten ⟨file, [.broken url detail]⟩) (trimmed : Text.trim detail = detail)
    (telling : IsTelling detail) :
    warnings table (Text.unlines (Block.lines ⟨file, [.broken url detail]⟩)) =
      [table.restore file.tempPath ++ ": ".toList ++
        (url.dropWhile fun c => c ∈ ['\t', ' ', 'E', 'R', 'O']) ++ ": ".toList ++ detail] := by
  have lines : Block.lines ⟨file, [.broken url detail]⟩ =
      [file.tempPath, "\tERROR\t".toList ++ url, "\t\t".toList ++ detail] := rfl
  rw [warnings, read, Text.lines_unlines written.isLine, lines,
    findings_of_header written.isHeader, findings_of_error (isError_broken url), trim_indented,
    trimmed, isIgnored_eq_false_iff.2 telling, urlOf_marked]
  rfl

/-- The one warning for a broken link names what was reported, but for the tabs, blanks and letters
`E`, `R` and `O` at its front; and so names the link exactly if it does not begin with one of them.
-/
theorem warnings_broken_iff (last : PathTable.IsLastPath files file.tempPath file.path)
    (written : Block.IsWritten ⟨file, [.broken url detail]⟩) (trimmed : Text.trim detail = detail)
    (telling : IsTelling detail) :
    warnings (PathTable.ofCandidates files)
          (Text.unlines (Block.lines ⟨file, [.broken url detail]⟩)) =
        [file.path ++ ": ".toList ++ (url.dropWhile fun c => c ∈ ['\t', ' ', 'E', 'R', 'O']) ++
          ": ".toList ++ detail] ∧
      (warnings (PathTable.ofCandidates files)
            (Text.unlines (Block.lines ⟨file, [.broken url detail]⟩)) =
          [file.path ++ ": ".toList ++ url ++ ": ".toList ++ detail] ↔
        ∀ c ∈ url.head?, c ∉ ['\t', ' ', 'E', 'R', 'O']) := by
  have restored : (PathTable.ofCandidates files).restore file.tempPath = file.path :=
    (PathTable.isArranged_ofCandidates files).restore_temp written.named last
  have found := warnings_broken (PathTable.ofCandidates files) written trimmed telling
  rw [restored] at found
  refine ⟨found, ?_⟩
  rw [found, List.singleton_inj, List.append_left_inj, List.append_left_inj,
    List.append_right_inj, dropWhile_marks_eq_self_iff]

/-- A page whose copy has a name that begins with the name of another copy. -/
def longerPage : Candidate := Candidate.ofPaths "/t/0-TODO".toList "docs/TODO".toList

/-- A link that begins with letters of the mark. -/
def readmeLink : Text := "README.md".toList

/-- A link in which they stand further on. -/
def plainLink : Text := "docs/ERROR.md".toList

/-- A link with the letters of the mark behind other ones is kept. -/
theorem warnings_plainLink :
    PathTable.IsLastPath [disguisedPage, longerPage] longerPage.tempPath longerPage.path ∧
      Block.IsWritten ⟨longerPage, [.broken plainLink "404".toList]⟩ ∧
      warnings (PathTable.ofCandidates [disguisedPage, longerPage])
          (Text.unlines (Block.lines ⟨longerPage, [.broken plainLink "404".toList]⟩)) =
        ["docs/TODO: docs/ERROR.md: 404".toList] := by
  have last : PathTable.IsLastPath [disguisedPage, longerPage] longerPage.tempPath
      longerPage.path :=
    PathTable.isLastPath_of_nodup (by decide) (by decide)
  have written : Block.IsWritten ⟨longerPage, [.broken plainLink "404".toList]⟩ :=
    ⟨by decide, by decide, by decide⟩
  have front : ∀ c ∈ plainLink.head?, c ∉ ['\t', ' ', 'E', 'R', 'O'] := by
    have first : plainLink.head? = some 'd' := by decide
    intro c mem
    obtain rfl : 'd' = c := Option.some.inj (first.symm.trans mem)
    decide
  have named := (warnings_broken_iff last written (by decide) (by decide)).2.2 front
  exact ⟨last, written, named.trans (by cbv)⟩

/-- Of a link that begins with letters of the mark these are lost. -/
theorem warnings_readmeLink :
    (∀ c ∈ readmeLink, '!' ≤ c ∧ c ≤ '~') ∧
      Block.IsWritten ⟨disguisedPage, [.broken readmeLink "404".toList]⟩ ∧
      warnings (PathTable.ofCandidates [disguisedPage])
          (Text.unlines (Block.lines ⟨disguisedPage, [.broken readmeLink "404".toList]⟩)) =
        ["TODO: ADME.md: 404".toList] := by
  have written : Block.IsWritten ⟨disguisedPage, [.broken readmeLink "404".toList]⟩ :=
    ⟨by decide, by decide, by decide⟩
  have visible : ∀ c ∈ readmeLink, '!' ≤ c ∧ c ≤ '~' := by
    have all : readmeLink.all (fun c => '!' ≤ c ∧ c ≤ '~') = true := by decide
    simpa using all
  have named := warnings_broken (PathTable.ofCandidates [disguisedPage]) written (by decide)
    (by decide)
  rw [restore_disguisedPage] at named
  exact ⟨visible, written, named.trans (by cbv)⟩

/-! ## Good links -/

/-- A calm entry leaves no error open. -/
theorem Entry.IsCalm.not_endsOnError {entry : Entry} (calm : entry.IsCalm) :
    ¬ EndsOnError entry.lines := by
  cases entry with
  | good url =>
    rw [Entry.lines, endsOnError_cons_iff (isError_good calm)]
    exact not_endsOnError_nil
  | broken url detail =>
    rw [Entry.lines, endsOnError_answered_iff (isError_broken url)]
    exact not_endsOnError_nil

/-- Rows of lines that leave no error open make one that does not either. -/
theorem not_endsOnError_flatMap {α : Type} {lines : α → List Text} {items : List α}
    (each : ∀ item ∈ items, ¬ EndsOnError (lines item)) :
    ¬ EndsOnError (items.flatMap lines) := by
  induction items with
  | nil => exact not_endsOnError_nil
  | cons item items ih =>
    rw [List.flatMap_cons, endsOnError_append_iff (each item List.mem_cons_self)]
    exact ih fun other mem => each other (List.mem_cons_of_mem _ mem)

/-- What stands in a block above a place between its entries waits for no reason there. -/
theorem not_endsOnError_header {header : Text} (named : isHeader header = true)
    {entries : List Entry} (calm : ∀ entry ∈ entries, entry.IsCalm) :
    ¬ EndsOnError (header :: entries.flatMap Entry.lines) := by
  rw [endsOnError_cons_iff (isError_eq_false_of_isHeader named)]
  exact not_endsOnError_flatMap fun entry mem => (calm entry mem).not_endsOnError

/-- A line that is neither a header nor an error can be left out below lines that do not end on an
error. -/
theorem findings_insert {above : List Text} {line : Text} (answered : ¬ EndsOnError above)
    (header : isHeader line = false) (error : isError line = false) (below : List Text) :
    findings table page (above ++ line :: below) = findings table page (above ++ below) := by
  rw [findings_append answered, findings_append answered, findings_of_skipped header error]

/-- The lines of blocks, cut between the entries of one. -/
theorem lines_between (before after : List Block) (file : Candidate) (early late : List Entry) :
    (before ++ ⟨file, early ++ late⟩ :: after).flatMap Block.lines =
      (before.flatMap Block.lines ++ file.tempPath :: early.flatMap Entry.lines) ++
        (late.flatMap Entry.lines ++ after.flatMap Block.lines) := by
  simp [Block.lines]

theorem Entry.isLine_good (single : Text.IsLine url) :
    ∀ line ∈ (Entry.good url).lines, Text.IsLine line := by
  intro line mem
  rw [List.mem_singleton.1 mem]
  exact Text.IsLine.append (by decide) single

/-- An entry that stands on lines can be put anywhere between those of a block. -/
theorem Block.IsWritten.insert (early late : List Entry) {entry : Entry}
    (written : Block.IsWritten ⟨file, early ++ late⟩)
    (single : ∀ line ∈ entry.lines, Text.IsLine line) :
    Block.IsWritten ⟨file, early ++ entry :: late⟩ where
  named := written.named
  flush := written.flush
  isLine line mem := by
    have placed : line ∈ entry.lines ∨ line ∈ Block.lines ⟨file, early ++ late⟩ := by
      simp only [Block.lines, List.flatMap_append, List.flatMap_cons, List.mem_cons,
        List.mem_append] at mem ⊢
      tauto
    rcases placed with inserted | given
    · exact single line inserted
    · exact written.isLine line given

/-- A good link that does not look like an error changes nothing, if those in the blocks and entries
above it do not look like errors either. -/
theorem warnings_insert_good (calm : ¬ "ERROR".toList <:+: url) (single : Text.IsLine url)
    {before after : List Block} {early late : List Entry}
    (written : ∀ block ∈ before ++ ⟨file, early ++ late⟩ :: after, block.IsWritten)
    (above : ∀ block ∈ before, ∀ entry ∈ block.entries, entry.IsCalm)
    (beside : ∀ entry ∈ early, entry.IsCalm) :
    warnings table (Text.unlines
        ((before ++ ⟨file, early ++ .good url :: late⟩ :: after).flatMap Block.lines)) =
      warnings table (Text.unlines
        ((before ++ ⟨file, early ++ late⟩ :: after).flatMap Block.lines)) := by
  have own : Block.IsWritten ⟨file, early ++ late⟩ := written _ (by simp)
  have inserted : ∀ block ∈ before ++ ⟨file, early ++ .good url :: late⟩ :: after,
      block.IsWritten := by
    intro block mem
    rcases List.mem_append.1 mem with mem | mem
    · exact written block (List.mem_append_left _ mem)
    · rcases List.mem_cons.1 mem with rfl | mem
      · exact own.insert early late (Entry.isLine_good single)
      · exact written block (List.mem_append_right _ (List.mem_cons_of_mem _ mem))
  have answered : ¬ EndsOnError
      (before.flatMap Block.lines ++ file.tempPath :: early.flatMap Entry.lines) := by
    have blocks : ¬ EndsOnError (before.flatMap Block.lines) := by
      refine not_endsOnError_flatMap fun block mem => ?_
      have header := (written block (List.mem_append_left _ mem)).isHeader
      exact not_endsOnError_header header (above block mem)
    rw [endsOnError_append_iff blocks]
    exact not_endsOnError_header own.isHeader beside
  rw [warnings, warnings, read, read, lines_unlines_blocks inserted, lines_unlines_blocks written,
    lines_between, lines_between, List.flatMap_cons, Entry.lines, List.singleton_append,
    List.cons_append, findings_insert answered (isHeader_good url) (isError_good calm)]

/-! ## Good links that look like errors -/

/-- A good link with `ERROR` in it takes the line below for its reason, and with it the broken link
that this line names. -/
theorem warnings_loud (table : PathTable) (loud : "ERROR".toList <:+: url) {hidden : Text}
    (written : Block.IsWritten ⟨file, [.good url, .broken hidden detail]⟩)
    (telling : IsTelling (Text.trim ("\tERROR\t".toList ++ hidden))) :
    warnings table (Text.unlines (Block.lines ⟨file, [.good url, .broken hidden detail]⟩)) =
      [table.restore file.tempPath ++ ": ".toList ++ urlOf ("\tOK\t".toList ++ url) ++
        ": ".toList ++ Text.trim ("\tERROR\t".toList ++ hidden)] := by
  have error : isError ("\tOK\t".toList ++ url) = true := by
    rw [isError, Bool.and_eq_true, Text.occursIn_iff]
    exact ⟨by simp [isIndented], loud.trans (List.suffix_append _ url).isInfix⟩
  have lines : Block.lines ⟨file, [.good url, .broken hidden detail]⟩ =
      [file.tempPath, "\tOK\t".toList ++ url, "\tERROR\t".toList ++ hidden,
        "\t\t".toList ++ detail] := rfl
  rw [warnings, read, Text.lines_unlines written.isLine, lines,
    findings_of_header written.isHeader, findings_of_error error, findings_singleton,
    isIgnored_eq_false_iff.2 telling]
  rfl

/-- A report of one broken link. -/
def hiddenBlock : Block := ⟨disguisedPage, [.broken "b.test".toList "404".toList]⟩

theorem isWritten_hiddenBlock : hiddenBlock.IsWritten := ⟨by decide, by decide, by decide⟩

/-- The same report with a good link in front of the broken one. -/
def hidingBlock (url : Text) : Block := ⟨disguisedPage, .good url :: hiddenBlock.entries⟩

theorem isWritten_hidingBlock (single : Text.IsLine url) : (hidingBlock url).IsWritten :=
  isWritten_hiddenBlock.insert [] hiddenBlock.entries (Entry.isLine_good single)

/-- If `ERROR` stands in the good link, the warning for the broken one is another. -/
theorem warnings_hidingBlock_ne (table : PathTable) (loud : "ERROR".toList <:+: url)
    (single : Text.IsLine url) :
    warnings table (Text.unlines (hidingBlock url).lines) ≠
      warnings table (Text.unlines hiddenBlock.lines) := by
  have covered := warnings_loud table loud (isWritten_hidingBlock single) (by decide)
  have hidden := warnings_broken table isWritten_hiddenBlock (by decide) (by decide)
  intro same
  have warning := List.singleton_inj.1 (covered.symm.trans (same.trans hidden))
  have ends := congrArg List.getLast? warning
  have line : (Text.trim ("\tERROR\t".toList ++ "b.test".toList)).getLast? = some 't' := by decide
  have reason : "404".toList.getLast? = some '4' := by decide
  rw [List.getLast?_append, line, Option.some_or, List.getLast?_append, reason, Option.some_or]
    at ends
  exact absurd ends (by decide)

/-- One good link more, anywhere below good links that do not look like errors, changes no report
exactly if `ERROR` does not stand in it. -/
theorem insert_good_iff (single : Text.IsLine url) :
    (∀ table before file early late after,
      (∀ block ∈ before ++ ⟨file, early ++ late⟩ :: after, block.IsWritten) →
        (∀ block ∈ before, ∀ entry ∈ block.entries, entry.IsCalm) →
          (∀ entry ∈ early, entry.IsCalm) →
            warnings table (Text.unlines
                ((before ++ ⟨file, early ++ .good url :: late⟩ :: after).flatMap Block.lines)) =
              warnings table (Text.unlines
                ((before ++ ⟨file, early ++ late⟩ :: after).flatMap Block.lines))) ↔
      ¬ "ERROR".toList <:+: url := by
  constructor
  · intro inert loud
    have same := inert (PathTable.ofCandidates []) [] disguisedPage [] hiddenBlock.entries []
      (List.forall_mem_singleton.2 isWritten_hiddenBlock) (by simp) (by simp)
    simp only [List.nil_append, List.flatMap_singleton] at same
    exact warnings_hidingBlock_ne (PathTable.ofCandidates []) loud single same
  · intro calm table before file early late after written above beside
    exact warnings_insert_good calm single written above beside

/-- A link that says `ERROR` in small letters and in parts. -/
def quietLink : Text := "a.test/error/ERR/OR".toList

/-- A link in which `ERROR` stands. -/
def loudLink : Text := "a.test/ERROR".toList

theorem warnings_hiddenBlock :
    warnings (PathTable.ofCandidates [disguisedPage]) (Text.unlines hiddenBlock.lines) =
      ["TODO: b.test: 404".toList] := by
  have found := warnings_broken (PathTable.ofCandidates [disguisedPage]) isWritten_hiddenBlock
    (by decide) (by decide)
  rw [restore_disguisedPage] at found
  exact found.trans (by cbv)

/-- A good link without the mark changes no warning. -/
theorem insert_quietLink :
    Text.IsLine quietLink ∧ ¬ "ERROR".toList <:+: quietLink ∧ hiddenBlock.IsWritten ∧
      warnings (PathTable.ofCandidates [disguisedPage])
          (Text.unlines (hidingBlock quietLink).lines) =
        ["TODO: b.test: 404".toList] := by
  have single : Text.IsLine quietLink := by decide
  have calm : ¬ "ERROR".toList <:+: quietLink := by decide
  have same := (insert_good_iff single).2 calm (PathTable.ofCandidates [disguisedPage]) []
    disguisedPage [] hiddenBlock.entries [] (List.forall_mem_singleton.2 isWritten_hiddenBlock)
    (by simp) (by simp)
  simp only [List.nil_append, List.flatMap_singleton] at same
  exact ⟨single, calm, isWritten_hiddenBlock, same.trans warnings_hiddenBlock⟩

/-- A good link with the mark in it swallows the next line and makes a warning of its own. -/
theorem warnings_loudLink :
    (∀ c ∈ loudLink, '!' ≤ c ∧ c ≤ '~') ∧ hiddenBlock.IsWritten ∧
      warnings (PathTable.ofCandidates [disguisedPage]) (Text.unlines hiddenBlock.lines) =
        ["TODO: b.test: 404".toList] ∧
      warnings (PathTable.ofCandidates [disguisedPage])
          (Text.unlines (hidingBlock loudLink).lines) =
        ["TODO: K\ta.test/ERROR: ERROR\tb.test".toList] := by
  have visible : ∀ c ∈ loudLink, '!' ≤ c ∧ c ≤ '~' := by
    have all : loudLink.all (fun c => '!' ≤ c ∧ c ≤ '~') = true := by decide
    simpa using all
  have covered := warnings_loud (PathTable.ofCandidates [disguisedPage])
    (by decide : "ERROR".toList <:+: loudLink) (isWritten_hidingBlock (by decide)) (by decide)
  rw [restore_disguisedPage] at covered
  exact ⟨visible, isWritten_hiddenBlock, warnings_hiddenBlock, covered.trans (by cbv)⟩

end LinkReport

end CheckoutLint
