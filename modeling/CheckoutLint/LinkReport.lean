import CheckoutLint.PathTable
import CheckoutLint.Text.Line
import CheckoutLint.Text.Blank

/-!
Reports of the link checker. A line that does not begin with a tab names the page that the lines
below it are about. A line that begins with a tab and holds `ERROR` names a link; the line after it,
whatever it looks like, is the reason. All other lines are passed over.

Main statement:

* `LinkReport.findings_of_header`, `LinkReport.findings_of_error`, `LinkReport.findings_of_skipped`:
  what each kind of line does.
-/

namespace CheckoutLint

/-- A link that did not work: the page it is on, and why it failed. -/
structure BrokenLink where
  page : Text
  url : Text
  detail : Text
  deriving DecidableEq, Repr

/-- What is said of a broken link. -/
def BrokenLink.warning (link : BrokenLink) : Text :=
  link.page ++ ": ".toList ++ link.url ++ ": ".toList ++ link.detail

namespace LinkReport

/-! ## Lines -/

/-- Whether a line stands under a page: it begins with a tab. -/
def isIndented (line : Text) : Bool := line.head? = some '\t'

/-- Whether a line names the page that the lines below it are about. -/
def isHeader (line : Text) : Bool := !line.isEmpty && !isIndented line

/-- Whether a line names a link that failed. -/
def isError (line : Text) : Bool := isIndented line && Text.occursIn "ERROR".toList line

/-- The characters that may stand before the link in an error line. -/
def isMarker (c : Char) : Bool := c = '\t' || c = ' ' || c = 'E' || c = 'R' || c = 'O'

/-- The link that an error line names. -/
def urlOf (line : Text) : Text := line.dropWhile isMarker

/-- Reasons that say nothing of the link: a timeout, or a local file looked up outside its
checkout. -/
def isIgnored (detail : Text) : Bool :=
  detail == "Timeout".toList || Text.occursIn "no such file".toList detail ||
    Text.occursIn "root directory is not specified".toList detail

/-! ## Reading -/

/-- The broken links in the lines of a report, given the page that the lines are about. -/
def findings (table : PathTable) (page : Text) : List Text → List BrokenLink
  | [] => []
  | line :: rest =>
    if isHeader line then findings table (table.restore line) rest
    else if isError line then
      match rest with
      | [] => []
      | reason :: rest =>
        let detail := Text.trim reason
        if isIgnored detail then findings table page rest
        else ⟨page, urlOf line, detail⟩ :: findings table page rest
    else findings table page rest

/-- The broken links in a report. -/
def read (table : PathTable) (report : Text) : List BrokenLink :=
  findings table [] (Text.lines report)

/-- The warnings for a report. -/
def warnings (table : PathTable) (report : Text) : List Text :=
  (read table report).map BrokenLink.warning

/-- A line that names a page changes the page. -/
theorem findings_of_header {table : PathTable} {page line : Text} {rest : List Text}
    (h : isHeader line = true) :
    findings table page (line :: rest) = findings table (table.restore line) rest := by
  rw [findings.eq_def]
  exact if_pos h

/-- A line that neither names a page nor is an error is skipped. -/
theorem findings_of_skipped {table : PathTable} {page line : Text} {rest : List Text}
    (header : isHeader line = false) (error : isError line = false) :
    findings table page (line :: rest) = findings table page rest := by
  rw [findings.eq_def]
  simp only [header, error, Bool.false_eq_true, if_false]

theorem isHeader_eq_false_of_isError {line : Text} (h : isError line = true) :
    isHeader line = false := by
  simp only [isError, Bool.and_eq_true] at h
  simp [isHeader, h.1]

/-- An error takes the line behind it as its reason. -/
theorem findings_of_error {table : PathTable} {page line reason : Text} {rest : List Text}
    (h : isError line = true) :
    findings table page (line :: reason :: rest) =
      (if isIgnored (Text.trim reason) then [] else [⟨page, urlOf line, Text.trim reason⟩]) ++
        findings table page rest := by
  rw [findings, if_neg (by simp [isHeader_eq_false_of_isError h]), if_pos h]
  dsimp only
  split <;> simp

end LinkReport

end CheckoutLint
