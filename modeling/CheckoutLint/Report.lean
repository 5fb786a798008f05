import CheckoutLint.Outcome
import CheckoutLint.Report.Style

/-!
The report in words: a header, an entry for each outcome, a summary. Warnings go to standard output,
the message of a failure to standard error.

Main statement:

* `Report.clean_iff`: the summary calls a run clean exactly if no checker failed and all passed.
-/

namespace CheckoutLint.Report

open Style

/-- What is written to standard output and to standard error. -/
structure Written where
  out : Text
  err : Text
  deriving DecidableEq, Repr

/-- A text and the end of its line. -/
def line (text : Text) : Text := text ++ ['\n']

/-- The header of a report. -/
def header (color : Bool) : Text :=
  line (paint color .bold "\n=== Repository Lint ===\n".toList)

/-! ## Entries -/

/-- The three forms of an entry. -/
inductive Form where
  | failed (message : Text)
  | clean
  | warned (warnings : List Text)
  deriving DecidableEq, Repr

/-- The form in which an outcome is shown. -/
def form (outcome : Outcome) : Form :=
  match outcome.error with
  | some message => .failed message
  | none => if outcome.passed then .clean else .warned outcome.warnings

/-- The first line of an entry: a sign, the checker and a word. -/
def heading (color : Bool) (style : Style) (sign name word : Text) : Text :=
  line (paint color style sign ++ " ".toList ++ name ++ ": ".toList ++ paint color style word)

/-- An entry in a given form. -/
def entryOf (color : Bool) (name : Text) : Form → Written
  | .failed message =>
    ⟨heading color .red "✗".toList name "error".toList,
      line ("  ".toList ++ paint color .red message)⟩
  | .clean => ⟨heading color .green "✓".toList name "clean".toList, []⟩
  | .warned warnings =>
    ⟨heading color .yellow "⚠".toList name
        (Text.ofNat warnings.length ++ " warning(s)".toList) ++
      line [] ++
      warnings.flatMap (fun warning => line ("  ".toList ++ paint color .dimmed warning)) ++
      line [], []⟩

/-- The entry of an outcome. -/
def entry (color : Bool) (outcome : Outcome) : Written := entryOf color outcome.name (form outcome)

/-! ## Summary -/

/-- What a summary counts. -/
structure Tally where
  checkers : Nat
  failed : Nat
  warned : Nat
  warnings : Nat
  deriving DecidableEq, Repr

/-- Counts outcomes. A checker that failed is not counted among those with warnings, but what
warnings it has are. -/
def tally (outcomes : List Outcome) : Tally where
  checkers := outcomes.length
  failed := outcomes.countP fun outcome => outcome.error.isSome
  warned := outcomes.countP fun outcome => !outcome.passed && outcome.error.isNone
  warnings := outcomes.foldl (fun total outcome => total + outcome.warnings.length) 0

/-- Whether nothing failed and nothing was found. -/
def Tally.clean (tally : Tally) : Bool := tally.failed == 0 && tally.warned == 0

/-- Whether the summary calls the run clean. -/
def clean (outcomes : List Outcome) : Bool := (tally outcomes).clean

/-- The sentence of a summary. -/
def sentence (tally : Tally) : Text :=
  if tally.clean then
    "\nAll ".toList ++ Text.ofNat tally.checkers ++ "/".toList ++ Text.ofNat tally.checkers ++
      " checks clean.\n".toList
  else
    "\n".toList ++ Text.ofNat tally.warned ++ "/".toList ++ Text.ofNat tally.checkers ++
      " check(s) reported ".toList ++ Text.ofNat tally.warnings ++ " warning(s)".toList ++
      (if tally.failed = 0 then []
        else ", ".toList ++ Text.ofNat tally.failed ++ " could not run".toList) ++
      ".\n".toList

/-- The summary of a run. -/
def summary (color : Bool) (outcomes : List Outcome) : Text :=
  let tally := tally outcomes
  line (paint color .bold "\n--- Summary ---".toList) ++
    line (paint color (if tally.clean then .green else .red) (sentence tally))

/-- A report is clean just if every checker ran and has passed. -/
theorem clean_iff {outcomes : List Outcome} :
    clean outcomes = true ↔
      ∀ outcome ∈ outcomes, outcome.error = none ∧ outcome.passed = true := by
  simp only [clean, Tally.clean, tally, Bool.and_eq_true, beq_iff_eq, List.countP_eq_zero]
  constructor
  · rintro ⟨failed, warned⟩ outcome mem
    have error : outcome.error = none := by simpa using failed outcome mem
    exact ⟨error, by simpa [error] using warned outcome mem⟩
  · intro h
    exact ⟨fun outcome mem => by simp [(h outcome mem).1],
      fun outcome mem => by simp [(h outcome mem).2]⟩

end CheckoutLint.Report
