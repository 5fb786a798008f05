import CheckoutLint.Proofs.LinkReport.Roles

/-!
Reports one behind the other. A report that ends its last line and leaves no error without a reason
has nothing open at its end, and one whose first line names a page takes nothing over from what
stands before it. Between two such reports nothing passes: read together they give what each gives
on its own, in the same order.

* `Text.lines_append`: the lines of two texts, if the first one ends its last line.
* `read_append`, `warnings_append`: what two reports give.
* `warnings_flatten`: what any number of reports gives.
-/

namespace CheckoutLint

namespace Text

/-- A text that is empty, or ends its last line with a line feed. -/
def EndsLine (s : Text) : Prop := s = [] ∨ s.getLast? = some '\n'

instance (s : Text) : Decidable (EndsLine s) := inferInstanceAs (Decidable (_ ∨ _))

theorem EndsLine.tail {c : Char} {s : Text} (ended : EndsLine (c :: s)) : EndsLine s := by
  rcases ended with none | last
  · contradiction
  · cases s with
    | nil => exact .inl rfl
    | cons d s => exact .inr (List.getLast?_cons_cons ▸ last)

theorem EndsLine.eq_newline {c : Char} (ended : EndsLine [c]) : c = '\n' := by
  rcases ended with none | last
  · contradiction
  · exact Option.some.inj last

/-- No line goes on across the seam, not even one whose end has two characters. -/
theorem lines_append {first : Text} (ended : EndsLine first) (second : Text) :
    lines (first ++ second) = lines first ++ lines second := by
  fun_induction lines first with
  | case1 => rfl
  | case2 s ih => exact congrArg ([] :: ·) (ih ended.tail)
  | case3 s ih => exact congrArg ([] :: ·) (ih ended.tail.tail)
  | case4 c s feed carriage none ih =>
    rw [lines_eq_nil_iff] at none
    subst none
    exact absurd ended.eq_newline feed
  | case5 c s feed carriage line rest split ih =>
    have filled : s ≠ [] := fun empty => by simp [empty, lines] at split
    have whole : c = '\r' → (s ++ second).head? ≠ some '\n' := by
      intro eq next
      rw [List.head?_append_of_ne_nil s filled] at next
      obtain ⟨rest, cut⟩ := List.head?_eq_some_iff.1 next
      exact carriage rest eq cut
    rw [List.cons_append, lines_cons_of_not_end feed whole, ih ended.tail, split]
    rfl

end Text

namespace LinkReport

/-- Reports with nothing open at their end: the last line has ended, and no error waits there for
its reason. -/
structure IsClosed (report : Text) : Prop where
  ended : Text.EndsLine report
  answered : ¬ EndsOnError (Text.lines report)

/-- Reports whose first line that is not empty, if there is one, is not indented, and so names a
page. -/
def NamesPage (report : Text) : Prop :=
  ∀ line ∈ (Text.lines report).find? (· ≠ []), line.head? ≠ some '\t'

instance (report : Text) : Decidable (NamesPage report) :=
  inferInstanceAs (Decidable (∀ line ∈ (_ : Option Text), _))

variable {table : PathTable} {first second : Text}

/-- The page that lines are about does not matter to them if they name one first. -/
theorem findings_congr_page {lines : List Text}
    (named : ∀ line ∈ lines.find? (· ≠ []), line.head? ≠ some '\t') (page other : Text) :
    findings table page lines = findings table other lines := by
  induction lines with
  | nil => rfl
  | cons line rest ih =>
    by_cases empty : line = []
    · subst empty
      rw [findings_of_skipped rfl rfl, findings_of_skipped rfl rfl]
      exact ih named
    · have flush : line.head? ≠ some '\t' := named line (by simp [empty])
      have header : isHeader line = true := by simp [isHeader, isIndented, empty, flush]
      rw [findings_of_header header, findings_of_header header]

/-- What is read of two reports in a row, if the first one leaves no error open and the second one
names its page first, is what is read of each. -/
theorem read_append (closed : IsClosed first) (named : NamesPage second) :
    read table (first ++ second) = read table first ++ read table second := by
  rw [read, Text.lines_append closed.ended, findings_append closed.answered,
    findings_congr_page named _ [], read, read]

/-- If nothing is left open at the end of one report, and the other one names a page first, then
the warnings for the two in one are those for the one and those for the other. -/
theorem warnings_append (closed : IsClosed first) (named : NamesPage second) :
    warnings table (first ++ second) = warnings table first ++ warnings table second := by
  rw [warnings, read_append closed named, List.map_append, warnings, warnings]

/-- A report that begins with an empty line of either end, has an empty line for a reason, and ends
on an error in a line that has no end. -/
def bareReport : Text := "\r\n\n/t/0\n\tERROR\t#a\n\n\tERROR\tb".toList

theorem warnings_bareReport :
    warnings (PathTable.ofCandidates [disguisedPage]) bareReport = ["TODO: #a: ".toList] := by
  have lines : Text.lines bareReport =
      [[], [], disguisedPage.tempPath, "\tERROR\t#a".toList, [], "\tERROR\tb".toList] := by
    decide
  rw [warnings, read, lines, findings_of_skipped rfl rfl, findings_of_skipped rfl rfl,
    findings_of_header (by decide), restore_disguisedPage]
  decide

/-- A report with a link that looks like an error, and one behind it that names no page but its own.
-/
theorem warnings_disguisedReport_append :
    IsClosed disguisedReport ∧ NamesPage bareReport ∧
      warnings (PathTable.ofCandidates [disguisedPage]) (disguisedReport ++ bareReport) =
        [": .test: /t/0".toList, "TODO: b: ERROR\tc".toList, "TODO: #a: ".toList] := by
  have closed : IsClosed disguisedReport := ⟨by decide, by decide⟩
  have named : NamesPage bareReport := by decide
  refine ⟨closed, named, (warnings_append closed named).trans ?_⟩
  rw [warnings_disguisedReport, warnings_bareReport]
  rfl

/-! ## Any number of reports -/

/-- Two reports that name their pages make one that does. -/
theorem NamesPage.append (ended : Text.EndsLine first) (left : NamesPage first)
    (right : NamesPage second) : NamesPage (first ++ second) := by
  intro line found
  rw [Text.lines_append ended, List.find?_append, Option.mem_def, Option.or_eq_some_iff] at found
  rcases found with found | ⟨-, found⟩
  · exact left line found
  · exact right line found

/-- So do any number of them. -/
theorem namesPage_flatten {reports : List Text} (ended : ∀ report ∈ reports, Text.EndsLine report)
    (named : ∀ report ∈ reports, NamesPage report) : NamesPage reports.flatten := by
  induction reports with
  | nil => simp [NamesPage, Text.lines]
  | cons report reports ih =>
    have others := ih (fun other mem => ended other (List.mem_cons_of_mem _ mem))
      fun other mem => named other (List.mem_cons_of_mem _ mem)
    exact (named report List.mem_cons_self).append (ended report List.mem_cons_self) others

/-- Any number of reports, each of which names its pages and leaves nothing open, can be read one by
one. -/
theorem warnings_flatten (table : PathTable) {reports : List Text}
    (closed : ∀ report ∈ reports, IsClosed report) (named : ∀ report ∈ reports, NamesPage report) :
    warnings table reports.flatten = reports.flatMap (warnings table) := by
  induction reports with
  | nil => rfl
  | cons report reports ih =>
    have otherClosed : ∀ other ∈ reports, IsClosed other := fun other mem =>
      closed other (List.mem_cons_of_mem _ mem)
    have otherNamed : ∀ other ∈ reports, NamesPage other := fun other mem =>
      named other (List.mem_cons_of_mem _ mem)
    have behind := namesPage_flatten (fun other mem => (otherClosed other mem).ended) otherNamed
    rw [List.flatten_cons, List.flatMap_cons, warnings,
      read_append (closed report List.mem_cons_self) behind, List.map_append,
      ← ih otherClosed otherNamed, warnings, warnings]

end LinkReport

end CheckoutLint
