import CheckoutLint.Proofs.Pass.Selection
import Mathlib

/-!
Line ends. Putting a carriage return in front of each line feed changes nothing that a checker says,
of a file or of what a tool has written. Lines are the same, as the carriage return is dropped with
the line feed; and the template of a copyright notice is searched in the whole text, where a line
end stands among other blanks only, and one blank more makes no difference.

* `Text.lines_crlf`: the lines of the text.
* `CopyrightTemplate.occursIn_crlf`: the notice in the text.
* `Inspection.check_crlf`: what a checker says.
-/

namespace CheckoutLint

/-! ## Texts -/

namespace Text

/-- The text with a carriage return in front of each line feed. -/
def crlf : Text → Text
  | [] => []
  | c :: s => if c = '\n' then '\r' :: '\n' :: crlf s else c :: crlf s

theorem crlf_newline (s : Text) : crlf ('\n' :: s) = '\r' :: '\n' :: crlf s := by
  rw [crlf, if_pos rfl]

theorem crlf_cons {c : Char} (h : c ≠ '\n') (s : Text) : crlf (c :: s) = c :: crlf s := by
  rw [crlf, if_neg h]

/-- A text without carriage returns has the same lines with either line end. -/
theorem lines_crlf {s : Text} (h : '\r' ∉ s) : lines (crlf s) = lines s := by
  induction s with
  | nil => rfl
  | cons c s ih =>
    simp only [List.mem_cons, not_or] at h
    have rest := ih h.2
    by_cases newline : c = '\n'
    · subst newline
      rw [crlf_newline]
      exact congrArg ([] :: ·) rest
    · have other : c ≠ '\r' := Ne.symm h.1
      rw [crlf_cons newline, lines_cons newline other, lines_cons newline other, rest]

/-- Both characters of the line end are blank. -/
theorem trimStart_crlf (s : Text) : trimStart (crlf s) = crlf (trimStart s) := by
  induction s with
  | nil => rfl
  | cons c s ih =>
    by_cases newline : c = '\n'
    · subst newline
      rw [crlf_newline]
      exact ih
    · rw [crlf_cons newline]
      simp only [trimStart, List.dropWhile_cons] at ih ⊢
      split
      · exact ih
      · rw [crlf_cons newline]

end Text

/-! ## Copyright notices -/

namespace CopyrightTemplate

open Text

/-- A word that has no line end in it is found in front of the same rest. -/
theorem dropFolded?_crlf {word : Text} (noFeed : '\n' ∉ word) (noReturn : '\r' ∉ word) (s : Text) :
    dropFolded? word (crlf s) = (dropFolded? word s).map crlf := by
  induction word generalizing s with
  | nil => rfl
  | cons c word ih =>
    simp only [List.mem_cons, not_or] at noFeed noReturn
    cases s with
    | nil => rfl
    | cons d s =>
      by_cases newline : d = '\n'
      · subst newline
        have feed : Char.toLower '\n' ≠ c := noFeed.1
        have carriage : Char.toLower '\r' ≠ c := noReturn.1
        rw [crlf_newline, dropFolded?, dropFolded?, if_neg feed, if_neg carriage]
        rfl
      · rw [crlf_cons newline, dropFolded?, dropFolded?]
        split
        · exact ih noFeed.2 noReturn.2 s
        · rfl

/-- Other line ends do not change what is skipped as a mark. -/
theorem dropMark_crlf (s : Text) : dropMark (crlf s) = crlf (dropMark s) := by
  rw [dropMark, dropMark, dropFolded?_crlf (by decide) (by decide),
    dropFolded?_crlf (by decide) (by decide)]
  cases dropFolded? "(c)".toList s with
  | some rest => exact trimStart_crlf rest
  | none =>
    cases dropFolded? "©".toList s with
    | some rest => exact trimStart_crlf rest
    | none => rfl

theorem dropComma_crlf (s : Text) : dropComma (crlf s) = crlf (dropComma s) := by
  cases s with
  | nil => rfl
  | cons c s =>
    by_cases comma : c = ','
    · subst comma
      rfl
    · have kept (s : Text) : dropComma (c :: s) = c :: s := by
        rw [dropComma]
        simpa using comma
      by_cases newline : c = '\n'
      · subst newline
        rfl
      · rw [crlf_cons newline, kept, kept, crlf_cons newline]

/-- Nor whether the fields of a notice stand at the front. -/
theorem placeholdersAt_crlf (s : Text) : placeholdersAt (crlf s) = placeholdersAt s := by
  rw [placeholdersAt, placeholdersAt, dropFolded?_crlf (by decide) (by decide)]
  cases dropFolded? "year".toList s with
  | none => rfl
  | some rest =>
    simp only [Option.map_some, dropComma_crlf, trimStart_crlf]
    rw [dropFolded?_crlf (by decide) (by decide), Option.isSome_map]

/-- Nor whether a notice stands at the front. -/
theorem noticeAt_crlf (s : Text) : noticeAt (crlf s) = noticeAt s := by
  rw [noticeAt, noticeAt, dropFolded?_crlf (by decide) (by decide)]
  cases dropFolded? "copyright ".toList s with
  | none => rfl
  | some rest =>
    simp only [Option.map_some, dropMark_crlf, placeholdersAt_crlf]

/-- No notice begins between the two characters of a line end, and else one begins in the one text
where it does in the other. -/
theorem occursIn_crlf (s : Text) : occursIn (crlf s) = occursIn s := by
  have step (c : Char) (s : Text) : occursIn (c :: s) = (noticeAt (c :: s) || occursIn s) := rfl
  induction s with
  | nil => rfl
  | cons c s ih =>
    have first := noticeAt_crlf (c :: s)
    by_cases newline : c = '\n'
    · subst newline
      have feed : noticeAt ('\n' :: crlf s) = false := rfl
      rw [crlf_newline] at first
      rw [crlf_newline, step, step, step, first, feed, ih, Bool.false_or]
    · rw [crlf_cons newline] at first
      rw [crlf_cons newline, step, step, first, ih]

end CopyrightTemplate

/-! ## Checks -/

/-- A scan finds the same in a file with either line end. -/
theorem Scan.warnings_crlf (scan : Scan) {file : Candidate} {c : Text}
    (text : file.contents = some c) (plain : '\r' ∉ c) :
    scan.warnings { file with contents := some (Text.crlf c) } = scan.warnings file := by
  have before : file.text = c := by rw [Candidate.text, text, Option.getD_some]
  have after :
      ({ file with contents := some (Text.crlf c) } : Candidate).text = Text.crlf c := rfl
  cases scan with
  | leftovers => rfl
  | copyright =>
    simp only [warnings, before, after, CopyrightTemplate.occursIn_crlf]
  | acronyms =>
    simp only [warnings, before, after, Acronym.warnings, Text.lines_crlf plain]
  | «variables» =>
    simp only [warnings, before, after, VariableTypo.warnings, Text.lines_crlf plain]

/-- An output without carriage returns reads the same with other line ends. -/
theorem Tool.read_crlf (table : PathTable) (tool : Tool) {output : Text} (plain : '\r' ∉ output) :
    tool.read table (Text.crlf output) = tool.read table output := by
  cases tool with
  | spelling => simp only [read, Text.lines_crlf plain]
  | links => simp only [read, LinkReport.warnings, LinkReport.read, Text.lines_crlf plain]

/-- So a tool finds the same whatever ends its lines. -/
theorem Tool.findings_crlf (tool : Tool) (table : PathTable) (status : Int) {output : Text}
    (plain : '\r' ∉ output) :
    tool.findings table ⟨status, Text.crlf output⟩ = tool.findings table ⟨status, output⟩ := by
  rw [findings, findings, read_crlf table tool plain]
  rfl

namespace Inspection

variable {σ : Type}

/-- Line ends do not matter. If the text of an accepted file has no carriage returns, and one is put
in front of each line feed, a scan comes to what it came to before; and a tool whose output has none
comes to the same as one that writes the same output with carriage returns in it. -/
theorem check_crlf (launch : Launcher σ) (inspection : Inspection) (state : σ) {c : Text}
    (plain : '\r' ∉ c) :
    (∀ scan index file, inspection.checker = .scan scan →
      inspection.accepted[index]? = some file → file.contents = some c →
        (inspection.load index (some (Text.crlf c))).check launch state =
          inspection.check launch state) ∧
      ∀ tool program (other : Launcher σ) (there : σ) status after after',
        inspection.checker = .tool tool program →
        launch (tool.command program inspection.tempPaths) state = (.ok ⟨status, c⟩, after) →
        other (tool.command program inspection.tempPaths) there =
          (.ok ⟨status, Text.crlf c⟩, after') →
        (inspection.check other there).1 = (inspection.check launch state).1 := by
  constructor
  · intro scan index file named found text
    have same : ∀ other ∈ inspection.accepted[index]?,
        scan.warnings { other with contents := some (Text.crlf c) } = scan.warnings other := by
      intro other mem
      obtain rfl : file = other := Option.some.inj (found.symm.trans mem)
      exact scan.warnings_crlf text plain
    have warnings := map_load_eq scan.warnings inspection same
    have loaded : (inspection.load index (some (Text.crlf c))).checker = .scan scan := named
    rw [check_scan launch state loaded, check_scan launch state named, List.flatMap_def,
      List.flatMap_def, warnings]
  · intro tool program other there status after after' named launched launched'
    by_cases files : inspection.accepted = []
    · simp [check, named, files]
    · rw [check_tool launch state named files, check_tool other there named files, launched,
        launched']
      exact congrArg Except.ok (tool.findings_crlf inspection.table status plain)

/-! ## A notice over two lines, and output with an empty line -/

/-- A notice with a line end between its placeholders. -/
def noticeText : Text := "Copyright year,\nfullname\n".toList

/-- A license with this notice, at work under its checker. -/
def licenseScan : Inspection :=
  ⟨.scan .copyright,
    [{ Candidate.ofPaths "/t/0".toList "LICENSE".toList with contents := some noticeText }]⟩

/-- What the spell checker says of a page. -/
def spellingText : Text := "/t/0:1: teh\n\n/t/0:2: adn\n".toList

/-- The spell checker at work on the page. -/
def spellingScan : Inspection :=
  ⟨.tool .spelling "misspell".toList, [Candidate.ofPaths "/t/0".toList "TODO".toList]⟩

/-- A tool that writes this output. -/
def writes (output : Text) : Launcher Unit := fun _ state => (.ok ⟨1, output⟩, state)

/-- A notice across a line end and two lines of a tool, both with other line ends. -/
theorem check_noticeText :
    '\r' ∉ noticeText ∧ '\r' ∉ spellingText ∧
      (licenseScan.load 0 (some (Text.crlf noticeText))).check (writes []) () =
        (.ok ["LICENSE: license contains sloppy copyright".toList], ()) ∧
      (spellingScan.check (writes (Text.crlf spellingText)) ()).1 =
        .ok ["TODO:1: teh".toList, "TODO:2: adn".toList] := by
  have plainNotice : '\r' ∉ noticeText := by decide
  have plainOutput : '\r' ∉ spellingText := by decide
  have notice := (check_crlf (writes []) licenseScan () plainNotice).1 .copyright 0 _ rfl rfl rfl
  have output := (check_crlf (writes spellingText) spellingScan () plainOutput).2 .spelling
    "misspell".toList (writes (Text.crlf spellingText)) () 1 () () rfl rfl rfl
  have flagged : licenseScan.accepted.flatMap Scan.copyright.warnings =
      ["LICENSE: license contains sloppy copyright".toList] := by
    decide
  have checked := check_scan (writes []) () (rfl : licenseScan.checker = .scan .copyright)
  rw [flagged] at checked
  have read : (spellingScan.check (writes spellingText) ()).1 =
      .ok ["TODO:1: teh".toList, "TODO:2: adn".toList] := by
    cbv
  exact ⟨plainNotice, plainOutput, notice.trans checked, output.trans read⟩

end Inspection

end CheckoutLint
