import CheckoutLint.Proofs.Pass.Selection
import CheckoutLint.Proofs.PathTable.Concealment

/-!
What the warnings of the link checker give away. A warning is put together from three lines of the
tool's output. The page comes from a header, and headers are restored; the link and the reason are
taken as they stand, so a temp path in one of them goes into the warning.

* `isFrom_of_mem_findings`: the lines that a broken link is taken from.
* `check_links_conceals_iff`: the warnings give no temp path away exactly if no link and no reason
  holds one.
* `check_links_discloses`: a report whose warning gives a temp path away.
-/

namespace CheckoutLint

namespace LinkReport

/-! ## Where the parts of a warning come from -/

/-- A broken link is taken from these lines: the page is the restored header that counts, or the one
given for the lines before the first; the link stands in an error line, the reason in a line. -/
structure IsFrom (table : PathTable) (page : Text) (lines : List Text) (link : BrokenLink) :
    Prop where
  page : link.page = page ∨ ∃ line ∈ lines, isHeader line = true ∧ link.page = table.restore line
  url : ∃ line ∈ lines, isError line = true ∧ link.url = urlOf line
  detail : ∃ reason ∈ lines, link.detail = Text.trim reason

variable {table : PathTable} {page line : Text} {lines : List Text} {link : BrokenLink}

/-- What a link is made of is there in a longer report too. -/
theorem IsFrom.cons (taken : IsFrom table page lines link) (line : Text) :
    IsFrom table page (line :: lines) link where
  page := by
    rcases taken.page with given | ⟨header, mem, named⟩
    · exact .inl given
    · exact .inr ⟨header, List.mem_cons_of_mem _ mem, named⟩
  url := by
    obtain ⟨error, mem, named⟩ := taken.url
    exact ⟨error, List.mem_cons_of_mem _ mem, named⟩
  detail := by
    obtain ⟨reason, mem, named⟩ := taken.detail
    exact ⟨reason, List.mem_cons_of_mem _ mem, named⟩

/-- Lines under a header are read for the page that it names. -/
theorem IsFrom.header (taken : IsFrom table (table.restore line) lines link)
    (header : isHeader line = true) : IsFrom table page (line :: lines) link where
  page := by
    rcases taken.page with given | found
    · exact .inr ⟨line, List.mem_cons_self, header, given⟩
    · obtain ⟨other, mem, named⟩ := found
      exact .inr ⟨other, List.mem_cons_of_mem _ mem, named⟩
  url := (taken.cons line).url
  detail := (taken.cons line).detail

/-- A link that is found is made of an error line, the line behind it and a page above them. -/
theorem isFrom_of_mem_findings (mem : link ∈ findings table page lines) :
    IsFrom table page lines link := by
  fun_induction findings table page lines with
  | case1 => cases mem
  | case2 page line rest header ih => exact (ih mem).header header
  | case3 => cases mem
  | case4 page line _ _ reason rest _ _ ih => exact ((ih mem).cons reason).cons line
  | case5 page line _ error reason rest _ _ ih =>
    rcases List.mem_cons.1 mem with rfl | mem
    · exact ⟨.inl rfl, ⟨line, List.mem_cons_self, error, rfl⟩,
        ⟨reason, List.mem_cons_of_mem _ List.mem_cons_self, rfl⟩⟩
    · exact ((ih mem).cons reason).cons line
  | case6 page line rest _ _ ih => exact (ih mem).cons line

end LinkReport

namespace PathTable

/-! ## What a warning holds -/

variable {files : List Candidate}

/-- If no temp path has a colon or a space, none reaches across a colon with a space behind it. -/
theorem conceals_append_seam_iff (colon : IsSeparator files ':') (space : IsSeparator files ' ')
    (left right : Text) :
    Conceals files (left ++ ": ".toList ++ right) ↔ Conceals files left ∧ Conceals files right := by
  have seam (file : Candidate) (mem : file ∈ files) (named : file.tempPath ≠ []) :
      file.tempPath <:+: left ++ ": ".toList ++ right ↔
        file.tempPath <:+: left ∨ file.tempPath <:+: right := by
    have joined : left ++ ": ".toList ++ right = left ++ ':' :: ([] ++ ' ' :: right) := by simp
    rw [joined, Text.infix_append_cons_iff (colon file mem),
      Text.infix_append_cons_iff (space file mem), List.infix_nil]
    simp [named]
  constructor
  · intro hidden
    exact
      ⟨fun file mem named inside => hidden file mem named ((seam file mem named).2 (.inl inside)),
        fun file mem named inside => hidden file mem named ((seam file mem named).2 (.inr inside))⟩
  · rintro ⟨first, second⟩ file mem named inside
    rcases (seam file mem named).1 inside with inside | inside
    · exact first file mem named inside
    · exact second file mem named inside

/-- Around signs that no temp path holds, a warning conceals what its three parts conceal. -/
theorem conceals_warning_iff (colon : IsSeparator files ':') (space : IsSeparator files ' ')
    (link : BrokenLink) :
    Conceals files link.warning ↔
      Conceals files link.page ∧ Conceals files link.url ∧ Conceals files link.detail := by
  rw [BrokenLink.warning, conceals_append_seam_iff colon space,
    conceals_append_seam_iff colon space, and_assoc]

theorem conceals_nil (files : List Candidate) : Conceals files [] :=
  fun _ _ named inside => named (List.infix_nil.1 inside)

/-- The page of a broken link holds no temp path: it has been restored. -/
theorem conceals_page {lines : List Text} {link : BrokenLink}
    (paths : ∀ file ∈ files, Conceals files file.path)
    (bounded : ∀ line ∈ lines, AllBounded files line)
    (taken : LinkReport.IsFrom (ofCandidates files) [] lines link) : Conceals files link.page := by
  rcases taken.page with none | ⟨line, mem, -, named⟩
  · rw [none]
    exact conceals_nil files
  · rw [named]
    exact (isArranged_ofCandidates files).conceals_restore paths (bounded line mem)

end PathTable

namespace Inspection

open PathTable

variable {σ : Type} {launch : Launcher σ} {inspection : Inspection} {program : Text}
  {state after : σ} {exit : Exit}

/-- If the paths of the files name no copies, every temp path in the output stands apart, and none
has a colon or a space, then the warnings of the link checker are made of pages that hold no temp
path, of links as they stand in error lines and of reasons as they stand in lines; and no warning
holds a temp path exactly if no link and no reason does. -/
theorem check_links_conceals_iff (links : inspection.checker = .tool .links program)
    (files : inspection.accepted ≠ [])
    (launched : launch (Tool.links.command program inspection.tempPaths) state = (.ok exit, after))
    (failed : exit.status ≠ 0)
    (paths : ∀ file ∈ inspection.accepted, Conceals inspection.accepted file.path)
    (bounded : ∀ line ∈ Text.lines exit.output, AllBounded inspection.accepted line)
    (colon : IsSeparator inspection.accepted ':') (space : IsSeparator inspection.accepted ' ') :
    inspection.check launch state =
        (.ok ((LinkReport.read inspection.table exit.output).map BrokenLink.warning), after) ∧
      (∀ link ∈ LinkReport.read inspection.table exit.output,
        Conceals inspection.accepted link.page ∧
          (∃ line ∈ Text.lines exit.output,
            LinkReport.isError line = true ∧ link.url = LinkReport.urlOf line) ∧
          ∃ reason ∈ Text.lines exit.output, link.detail = Text.trim reason) ∧
      ((∀ link ∈ LinkReport.read inspection.table exit.output,
          Conceals inspection.accepted link.warning) ↔
        ∀ link ∈ LinkReport.read inspection.table exit.output,
          Conceals inspection.accepted link.url ∧ Conceals inspection.accepted link.detail) := by
  refine ⟨check_of_failed links files launched failed, ?_, ?_⟩
  · intro link mem
    have taken := LinkReport.isFrom_of_mem_findings mem
    exact ⟨conceals_page paths bounded taken, taken.url, taken.detail⟩
  · refine forall₂_congr fun link mem => ?_
    have page := conceals_page paths bounded (LinkReport.isFrom_of_mem_findings mem)
    rw [conceals_warning_iff colon space, and_iff_right page]

/-! ## A page whose links are named by its copy -/

/-- The link checker at work on one page. -/
def linkedPage : Inspection :=
  ⟨.tool .links "liche".toList, [Candidate.ofPaths "/t/0-TODO".toList "TODO".toList]⟩

/-- A tool that ends with status one and writes this; it counts how often it is started. -/
def reporting (output : Text) : Launcher Nat := fun _ launches => (.ok ⟨1, output⟩, launches + 1)

/-- A report with a temp path in its header alone. -/
def plainReport : Text := "/t/0-TODO\n\tERROR\tb.test\n\t\t404\n".toList

/-- A report with temp paths in its header, in the link and in the reason. -/
def copyReport : Text := "/t/0-TODO\n\tERROR\t/t/0-TODO#a\n\t\tno /t/0-TODO\n".toList

/-- What a report of one link on the page comes to. -/
theorem read_linkedPage {report line reason : Text}
    (lines : Text.lines report = ["/t/0-TODO".toList, line, reason])
    (error : LinkReport.isError line = true)
    (telling : LinkReport.isIgnored (Text.trim reason) = false) :
    LinkReport.read linkedPage.table report =
      [⟨"TODO".toList, LinkReport.urlOf line, Text.trim reason⟩] := by
  have last := isLastPath_of_nodup (by decide : (linkedPage.accepted.map Candidate.tempPath).Nodup)
    List.mem_cons_self
  have restored : linkedPage.table.restore "/t/0-TODO".toList = "TODO".toList :=
    (isArranged_ofCandidates linkedPage.accepted).restore_temp (by decide) last
  rw [LinkReport.read, lines, LinkReport.findings_of_header (by decide), restored,
    LinkReport.findings_of_error error, telling]
  rfl

/-- A report on a page is restored, and its warning conceals. -/
theorem check_plainReport :
    (∀ file ∈ linkedPage.accepted, Conceals linkedPage.accepted file.path) ∧
      (∀ line ∈ Text.lines plainReport, AllBounded linkedPage.accepted line) ∧
      linkedPage.check (reporting plainReport) 0 = (.ok ["TODO: b.test: 404".toList], 1) ∧
      Conceals linkedPage.accepted "TODO: b.test: 404".toList := by
  have paths : ∀ file ∈ linkedPage.accepted, Conceals linkedPage.accepted file.path := by decide
  have bounded : ∀ line ∈ Text.lines plainReport, AllBounded linkedPage.accepted line := by decide
  have launched : reporting plainReport
      (Tool.links.command "liche".toList linkedPage.tempPaths) 0 = (.ok ⟨1, plainReport⟩, 1) := rfl
  have found : LinkReport.read linkedPage.table plainReport =
      [⟨"TODO".toList, "b.test".toList, "404".toList⟩] :=
    read_linkedPage (by decide : _ = ["/t/0-TODO".toList, "\tERROR\tb.test".toList,
      "\t\t404".toList]) (by decide) (by decide)
  obtain ⟨checked, -, conceals⟩ := check_links_conceals_iff (rfl : linkedPage.checker = _)
    (List.cons_ne_nil _ _) launched (by decide) paths bounded (by decide) (by decide)
  rw [found] at checked conceals
  exact ⟨paths, bounded, checked, conceals.2 (by decide) _ List.mem_cons_self⟩

/-- A link and a detail that name the copy are written as they are, so that the temp path is
disclosed. -/
theorem check_links_discloses :
    (∀ file ∈ linkedPage.accepted, Conceals linkedPage.accepted file.path) ∧
      (∀ line ∈ Text.lines copyReport, AllBounded linkedPage.accepted line) ∧
      linkedPage.check (reporting copyReport) 0 =
        (.ok ["TODO: /t/0-TODO#a: no /t/0-TODO".toList], 1) ∧
      ¬ Conceals linkedPage.accepted "TODO: /t/0-TODO#a: no /t/0-TODO".toList := by
  have launched : reporting copyReport
      (Tool.links.command "liche".toList linkedPage.tempPaths) 0 = (.ok ⟨1, copyReport⟩, 1) := rfl
  have found : LinkReport.read linkedPage.table copyReport =
      [⟨"TODO".toList, "/t/0-TODO#a".toList, "no /t/0-TODO".toList⟩] :=
    read_linkedPage (by decide : _ = ["/t/0-TODO".toList, "\tERROR\t/t/0-TODO#a".toList,
      "\t\tno /t/0-TODO".toList]) (by decide) (by decide)
  have checked := check_of_failed (rfl : linkedPage.checker = _) (List.cons_ne_nil _ _) launched
    (by decide)
  refine ⟨by decide, by decide, checked.trans ?_, by decide⟩
  rw [Tool.read, LinkReport.warnings, found]
  rfl

end Inspection

end CheckoutLint
