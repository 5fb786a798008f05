import CheckoutLint.CommandLine.Run
import CheckoutLint.Pass
import CheckoutLint.Proofs.Checkout.Independence
import Mathlib

/-!
All ways to report a run agree: the entries, the summary and the exit code. Each of them sorts an
outcome by other fields; those of an outcome that a pass has come to fit together. What is printed
is spelled out here letter by letter, so that its numbers and its lines can be told from it.

* `shows_iff`: an entry tells which of its three forms it has.
* `summary_eq`: the summary is the text that has the totals of what the entries tell.
* `agrees_runAll`: the reports of a run agree.
* `reports_agree`: and so do those of the command line, whose code depends neither on the format nor
  on timing.
-/

namespace CheckoutLint

namespace Report

open Style

/-! ## What is printed -/

/-- A text between the sequences with two codes, if there is colour. -/
def tinted (color : Bool) (on off : String) (text : Text) : Text :=
  if color then
    "\x1b[".toList ++ on.toList ++ "m".toList ++ text ++ "\x1b[".toList ++ off.toList ++ "m".toList
  else text

/-- An entry of a given form as it is printed: a sign, the name and a word; behind it the message
of a failure, or between two empty lines each warning on a line of its own. -/
def Form.printed (color : Bool) (name : Text) : Form → Written
  | .failed message =>
    ⟨tinted color "31" "39" "✗".toList ++ " ".toList ++ name ++ ": ".toList ++
        tinted color "31" "39" "error".toList ++ "\n".toList,
      "  ".toList ++ tinted color "31" "39" message ++ "\n".toList⟩
  | .clean =>
    ⟨tinted color "32" "39" "✓".toList ++ " ".toList ++ name ++ ": ".toList ++
        tinted color "32" "39" "clean".toList ++ "\n".toList, []⟩
  | .warned warnings =>
    ⟨tinted color "33" "39" "⚠".toList ++ " ".toList ++ name ++ ": ".toList ++
        tinted color "33" "39" (Text.ofNat warnings.length ++ " warning(s)".toList) ++
        "\n\n".toList ++
        (warnings.map fun warning =>
          "  ".toList ++ tinted color "2" "0" warning ++ "\n".toList).flatten ++
        "\n".toList, []⟩

/-- A summary of given numbers as it is printed. -/
def Tally.printed (color : Bool) (tally : Tally) : Text :=
  tinted color "1" "0" "\n--- Summary ---".toList ++ "\n".toList ++
    (if tally.failed = 0 ∧ tally.warned = 0 then
      tinted color "32" "39" ("\nAll ".toList ++ Text.ofNat tally.checkers ++ "/".toList ++
        Text.ofNat tally.checkers ++ " checks clean.\n".toList)
    else
      tinted color "31" "39" ("\n".toList ++ Text.ofNat tally.warned ++ "/".toList ++
        Text.ofNat tally.checkers ++ " check(s) reported ".toList ++
        Text.ofNat tally.warnings ++ " warning(s)".toList ++
        (if 0 < tally.failed then
          ", ".toList ++ Text.ofNat tally.failed ++ " could not run".toList
        else []) ++ ".\n".toList)) ++ "\n".toList

/-- What an entry tells of a checker: it failed, it was clean, or it has so many warnings. -/
inductive Verdict where
  | failed
  | clean
  | warned (count : Nat)
  deriving DecidableEq, Repr

namespace Verdict

/-- How many warnings follow. -/
def count : Verdict → Nat
  | .failed | .clean => 0
  | .warned count => count

/-- Whether warnings are announced. -/
def isWarned : Verdict → Bool
  | .failed | .clean => false
  | .warned _ => true

/-- The totals of what entries tell. -/
def total (verdicts : List Verdict) : Tally where
  checkers := verdicts.length
  failed := verdicts.count .failed
  warned := verdicts.countP isWarned
  warnings := (verdicts.map count).sum

end Verdict

/-- What an entry of a given form tells. -/
def Form.verdict : Form → Verdict
  | .failed _ => .failed
  | .clean => .clean
  | .warned warnings => .warned warnings.length

/-- `Shows color outcome verdict`: the entry of the outcome reads like one that tells this. -/
def Shows (color : Bool) (outcome : Outcome) (verdict : Verdict) : Prop :=
  ∃ form : Form, form.verdict = verdict ∧ entry color outcome = form.printed color outcome.name

/-- What an outcome is of which an entry tells this, and how the entry reads. -/
def Verdict.Fits (color : Bool) (outcome : Outcome) : Verdict → Prop
  | .failed => ∃ message, outcome.error = some message ∧
      entry color outcome = (Form.failed message).printed color outcome.name
  | .clean => outcome.error = none ∧ outcome.warnings = [] ∧
      entry color outcome = Form.clean.printed color outcome.name
  | .warned count => outcome.error = none ∧ outcome.warnings.length = count ∧ 1 ≤ count ∧
      entry color outcome = (Form.warned outcome.warnings).printed color outcome.name

/-- `Agrees color outcomes`: the exit code, the entries and the summary say the same. -/
structure Agrees (color : Bool) (outcomes : List Outcome) : Prop where
  two_iff : Outcome.exitCode outcomes = 2 ↔ ∃ outcome ∈ outcomes, outcome.error ≠ none
  one_iff : Outcome.exitCode outcomes = 1 ↔
    (∀ outcome ∈ outcomes, outcome.error = none) ∧ ∃ outcome ∈ outcomes, outcome.warnings ≠ []
  zero_iff : Outcome.exitCode outcomes = 0 ↔
    ∀ outcome ∈ outcomes, outcome.error = none ∧ outcome.warnings = []
  /-- An entry tells one thing only, and it is so. -/
  entries : ∀ outcome ∈ outcomes, ∃ verdict : Verdict, verdict.Fits color outcome ∧
    ∀ other, Shows color outcome other ↔ other = verdict
  /-- The summary is printed with the totals of what the entries tell. -/
  totals : ∃ verdicts, List.Forall₂ (Shows color) outcomes verdicts ∧
    summary color outcomes = (Verdict.total verdicts).printed color
  /-- Checkers that could not run are mentioned exactly if there are some. -/
  mention : "could not run".toList <:+: summary color outcomes ↔
    ∃ outcome ∈ outcomes, Shows color outcome .failed

section Entry

variable {color : Bool} {outcome : Outcome} {verdict : Verdict} {name : Text}

/-- A number in front of a blank can be read back. -/
theorem eq_of_ofNat_append {m n : Nat} {s t : Text}
    (same : Text.ofNat m ++ ' ' :: s = Text.ofNat n ++ ' ' :: t) : m = n := by
  have digits := congrArg (List.takeWhile Char.isDigit) same
  rw [Text.takeWhile_ofNat_append_cons m rfl, Text.takeWhile_ofNat_append_cons n rfl] at digits
  exact Text.ofNat_inj digits

/-- Styles are painted with their codes. -/
theorem paint_eq_tinted (style : Style) (text : Text) :
    paint color style text =
      match style with
      | .bold => tinted color "1" "0" text
      | .dimmed => tinted color "2" "0" text
      | .red => tinted color "31" "39" text
      | .green => tinted color "32" "39" text
      | .yellow => tinted color "33" "39" text := by
  cases color <;> cases style <;> simp [paint, tinted, Style.sequence, codes]

/-- An entry reads as it is spelled out, in each of its forms. -/
theorem entryOf_eq_printed (form : Form) : entryOf color name form = form.printed color name := by
  cases form with
  | failed message => simp [entryOf, Form.printed, heading, line, paint_eq_tinted]
  | clean => simp [entryOf, Form.printed, heading, line, paint_eq_tinted]
  | warned warnings =>
    simp [entryOf, Form.printed, heading, line, paint_eq_tinted, List.flatMap_def]

theorem entry_eq_printed :
    entry color outcome = (form outcome).printed color outcome.name := entryOf_eq_printed _

/-- The number of warnings can be read from the first line of an entry. -/
theorem length_eq_of_printed_eq {warnings others : List Text}
    (same : (Form.warned warnings).printed color name = (Form.warned others).printed color name) :
    warnings.length = others.length := by
  have out := congrArg Written.out same
  cases color <;> simp [Form.printed, tinted] at out <;> exact eq_of_ofNat_append out

/-- An entry tells one thing only: the signs differ, and so do the numbers of warnings. -/
theorem verdict_eq_of_printed_eq {form other : Form}
    (same : form.printed color name = other.printed color name) :
    form.verdict = other.verdict := by
  have out := congrArg Written.out same
  cases form <;> cases other
  case failed.failed => rfl
  case clean.clean => rfl
  case warned.warned => exact congrArg Verdict.warned (length_eq_of_printed_eq same)
  all_goals cases color <;> simp [Form.printed, tinted] at out

/-- An entry tells what the form of its outcome does. -/
theorem shows_iff : Shows color outcome verdict ↔ verdict = (form outcome).verdict := by
  constructor
  · rintro ⟨form, rfl, same⟩
    exact (verdict_eq_of_printed_eq (entry_eq_printed.symm.trans same)).symm
  · rintro rfl
    exact ⟨_, rfl, entry_eq_printed⟩

end Entry

end Report

/-! ## Outcomes of passes -/

namespace Outcome

/-- What a pass has come to: the outcome of some checker's result. -/
def IsResult (outcome : Outcome) : Prop := ∃ checker result, outcome = ofResult checker result

variable {outcome : Outcome} {outcomes : List Outcome}

theorem IsResult.passed_iff (result : outcome.IsResult) :
    outcome.passed = true ↔ outcome.warnings = [] ∧ outcome.error = none := by
  obtain ⟨checker, result, rfl⟩ := result
  exact passed_ofResult_iff

/-- The code says the worst that has happened. -/
theorem exitCode_cases (outcomes : List Outcome) :
    exitCode outcomes = 2 ∧ (∃ outcome ∈ outcomes, outcome.error ≠ none) ∨
      exitCode outcomes = 1 ∧ (∀ outcome ∈ outcomes, outcome.error = none) ∧
        (∃ outcome ∈ outcomes, outcome.passed = false) ∨
      exitCode outcomes = 0 ∧
        ∀ outcome ∈ outcomes, outcome.error = none ∧ outcome.passed = true := by
  rw [exitCode]
  split
  · rename_i failed
    obtain ⟨outcome, mem, error⟩ := List.any_eq_true.1 failed
    exact .inl ⟨rfl, outcome, mem, Option.isSome_iff_ne_none.1 error⟩
  · rename_i failed
    have fine : ∀ outcome ∈ outcomes, outcome.error = none := by simpa using failed
    split
    · rename_i found
      obtain ⟨outcome, mem, left⟩ := List.any_eq_true.1 found
      exact .inr (.inl ⟨rfl, fine, outcome, mem, by simpa using left⟩)
    · rename_i found
      have passed : ∀ outcome ∈ outcomes, outcome.passed = true := by simpa using found
      exact .inr (.inr ⟨rfl, fun outcome mem => ⟨fine outcome mem, passed outcome mem⟩⟩)

theorem exitCode_eq_two_iff :
    exitCode outcomes = 2 ↔ ∃ outcome ∈ outcomes, outcome.error ≠ none := by
  rcases exitCode_cases outcomes with ⟨code, failed⟩ | ⟨code, fine, found⟩ | ⟨code, clean⟩ <;> grind

theorem exitCode_eq_one_iff : exitCode outcomes = 1 ↔
    (∀ outcome ∈ outcomes, outcome.error = none) ∧
      ∃ outcome ∈ outcomes, outcome.passed = false := by
  rcases exitCode_cases outcomes with ⟨code, failed⟩ | ⟨code, fine, found⟩ | ⟨code, clean⟩ <;> grind

theorem exitCode_eq_zero_iff : exitCode outcomes = 0 ↔
    ∀ outcome ∈ outcomes, outcome.error = none ∧ outcome.passed = true := by
  rcases exitCode_cases outcomes with ⟨code, failed⟩ | ⟨code, fine, found⟩ | ⟨code, clean⟩ <;> grind

end Outcome

namespace Report

/-! ## The summary -/

section Summary

variable {color : Bool} {outcome : Outcome} {outcomes : List Outcome}

/-- The verdict that is read from an entry fits its outcome. -/
theorem verdict_fits (result : outcome.IsResult) :
    (form outcome).verdict.Fits color outcome := by
  obtain ⟨checker, result, rfl⟩ := result
  rcases result with failure | ⟨_ | ⟨warning, warnings⟩⟩
  · exact ⟨failure.message, rfl, entry_eq_printed⟩
  · exact ⟨rfl, rfl, entry_eq_printed⟩
  · exact ⟨rfl, rfl, Nat.le_add_left 1 _, entry_eq_printed⟩

theorem failed_verdict : (form outcome).verdict = .failed ↔ outcome.error.isSome = true := by
  rw [form]
  split
  · simp_all [Form.verdict]
  · split <;> simp_all [Form.verdict]

theorem isWarned_verdict :
    (form outcome).verdict.isWarned = (!outcome.passed && outcome.error.isNone) := by
  rw [form]
  split
  · simp_all [Form.verdict, Verdict.isWarned]
  · split <;> simp_all [Form.verdict, Verdict.isWarned]

theorem count_verdict (result : outcome.IsResult) :
    (form outcome).verdict.count = outcome.warnings.length := by
  obtain ⟨checker, result, rfl⟩ := result
  rcases result with failure | ⟨_ | ⟨warning, warnings⟩⟩ <;> rfl

/-- What the summary counts is what the entries tell. -/
theorem tally_eq_total (results : ∀ outcome ∈ outcomes, outcome.IsResult) :
    tally outcomes = Verdict.total (outcomes.map fun outcome => (form outcome).verdict) := by
  rw [tally, Verdict.total]
  congr 1
  · rw [List.length_map]
  · rw [List.count_eq_countP, List.countP_map]
    exact List.countP_congr fun outcome _ => by simp [failed_verdict]
  · rw [List.countP_map]
    exact List.countP_congr fun outcome _ => by simp [isWarned_verdict]
  · rw [List.map_map, ← List.foldl_map, ← List.sum_eq_foldl]
    exact congrArg List.sum (List.map_congr_left fun outcome mem =>
      (count_verdict (results outcome mem)).symm)

/-- A summary reads as it is spelled out, for the totals of its outcomes. -/
theorem summary_eq_printed : summary color outcomes = (tally outcomes).printed color := by
  rw [summary, Tally.printed]
  generalize tally outcomes = tally
  have newline : "\n".toList = ['\n'] := rfl
  by_cases none : tally.failed = 0 ∧ tally.warned = 0
  · have clean : tally.clean = true := by simp [Tally.clean, none]
    simp only [if_pos none, if_pos clean, sentence, paint_eq_tinted, line, newline,
      List.append_assoc]
  · have unclean : ¬ tally.clean = true := by simpa [Tally.clean] using none
    simp only [if_neg none, if_neg unclean, sentence, paint_eq_tinted, line, newline,
      Nat.pos_iff_ne_zero, ite_not, List.append_assoc]

/-- The summary is printed with the totals of what the entries tell. -/
theorem summary_eq (results : ∀ outcome ∈ outcomes, outcome.IsResult) :
    summary color outcomes =
      (Verdict.total (outcomes.map fun outcome => (form outcome).verdict)).printed color := by
  rw [summary_eq_printed, tally_eq_total results]

/-- Colours add nothing but their own characters. -/
theorem not_mem_tinted {char : Char} {on off : String} {text : Text}
    (code : char ∉ "\x1b[m".toList ++ on.toList ++ off.toList) (other : char ∉ text) :
    char ∉ tinted color on off text := by
  cases color <;> simp_all [tinted]

/-- A text stands unbroken between its colours. -/
theorem infix_tinted {on off : String} {text : Text} : text <:+: tinted color on off text := by
  cases color with
  | false => exact List.infix_rfl
  | true =>
    exact ⟨"\x1b[".toList ++ on.toList ++ "m".toList, "\x1b[".toList ++ off.toList ++ "m".toList,
      by simp [tinted]⟩

theorem not_mem_ofNat {char : Char} (n : Nat) (other : char.isDigit = false) :
    char ∉ Text.ofNat n := fun mem => by
  simp [Text.isDigit_of_mem_ofNat mem] at other

/-- A summary mentions what could not run exactly if something could not: without it, there is no
`o` in a summary that calls all clean, and no `l` in one that counts warnings. -/
theorem mention_iff (tally : Tally) :
    "could not run".toList <:+: tally.printed color ↔ 0 < tally.failed := by
  have o : ∀ n, 'o' ∉ Text.ofNat n := fun n => not_mem_ofNat n rfl
  have l : ∀ n, 'l' ∉ Text.ofNat n := fun n => not_mem_ofNat n rfl
  constructor
  · intro stands
    by_contra none
    have zero : tally.failed = 0 := by omega
    by_cases clean : tally.warned = 0
    · have mem : 'o' ∈ tally.printed color := stands.subset (by decide)
      rw [Tally.printed, if_pos ⟨zero, clean⟩] at mem
      cases color <;> simp [tinted, o] at mem
    · have mem : 'l' ∈ tally.printed color := stands.subset (by decide)
      rw [Tally.printed, if_neg (fun h => clean h.2), if_neg none] at mem
      cases color <;> simp [tinted, l] at mem
  · intro some
    have unclean : ¬ (tally.failed = 0 ∧ tally.warned = 0) := fun h => by omega
    rw [Tally.printed, if_neg unclean, if_pos some]
    refine List.IsInfix.trans (List.IsInfix.trans ?_ infix_tinted) (List.infix_append _ _ _)
    exact ⟨"\n".toList ++ Text.ofNat tally.warned ++ "/".toList ++ Text.ofNat tally.checkers ++
      " check(s) reported ".toList ++ Text.ofNat tally.warnings ++ " warning(s)".toList ++
      ", ".toList ++ Text.ofNat tally.failed ++ " ".toList, ".\n".toList, by simp⟩

end Summary

/-! ## Agreement -/

/-- The text, the totals and the exit code of results agree. -/
theorem agrees_of_results {outcomes : List Outcome}
    (results : ∀ outcome ∈ outcomes, outcome.IsResult) (color : Bool) : Agrees color outcomes where
  two_iff := Outcome.exitCode_eq_two_iff
  one_iff := by
    rw [Outcome.exitCode_eq_one_iff]
    refine and_congr_right fun fine => exists_congr fun outcome => and_congr_right fun mem => ?_
    rw [← Bool.not_eq_true, (results outcome mem).passed_iff]
    simp [fine outcome mem]
  zero_iff := by
    rw [Outcome.exitCode_eq_zero_iff]
    refine forall₂_congr fun outcome mem => and_congr_right fun fine => ?_
    simp [(results outcome mem).passed_iff, fine]
  entries outcome mem := ⟨_, verdict_fits (results outcome mem), fun _ => shows_iff⟩
  totals := by
    refine ⟨outcomes.map fun outcome => (form outcome).verdict, ?_, summary_eq results⟩
    rw [List.forall₂_map_right_iff, List.forall₂_same]
    exact fun outcome _ => shows_iff.2 rfl
  mention := by
    rw [summary_eq results, mention_iff, Verdict.total, List.count_pos_iff, List.mem_map]
    simp only [shows_iff, eq_comm]

theorem clean_iff_exitCode (outcomes : List Outcome) :
    clean outcomes = true ↔ Outcome.exitCode outcomes = 0 := by
  rw [clean_iff, Outcome.exitCode_eq_zero_iff]

end Report

namespace Inspection

/-! ## Runs -/

variable {σ : Type} (source : Source σ) (launch : Launcher σ)

/-- Whatever a checker comes to is a result. -/
theorem isResult_run (inspection : Inspection) (state : σ) :
    (inspection.run source launch state).1.1.IsResult := ⟨_, _, rfl⟩

theorem isResult_runAll (inspections : List Inspection) (state : σ) :
    ∀ outcome ∈ (runAll source launch inspections state).1.map (·.1), outcome.IsResult := by
  induction inspections generalizing state with
  | nil => simp [runAll]
  | cons inspection inspections ih =>
    rw [runAll, List.map_cons, List.forall_mem_cons]
    exact ⟨isResult_run source launch inspection state, ih _⟩

/-- So the report of every row of inspections agrees. -/
theorem agrees_runAll (inspections : List Inspection) (state : σ) (color : Bool) :
    Report.Agrees color ((runAll source launch inspections state).1.map (·.1)) :=
  Report.agrees_of_results (isResult_runAll source launch inspections state) color

end Inspection

namespace CommandLine

/-! ## The command line -/

section Timing

variable {machine : Machine} {environment : Environment} {options other : Options}
  {arguments : List Text}

theorem run_of_problem (start : Text → Launcher Workspace) (color : Bool) (elapsed : Text → Text)
    {problem : Problem} (parsed : Options.parse {} arguments = .ok options)
    (planned : plan machine options = .error problem) :
    run start color elapsed machine arguments = (problemReply problem, machine.disk) := by
  simp only [run, parsed, planned]

/-- A run that is planned replies with what its outcomes are written as. -/
theorem run_of_plan (start : Text → Launcher Workspace) (color : Bool) (elapsed : Text → Text)
    {planned : Plan} (parsed : Options.parse {} arguments = .ok options)
    (eq : plan machine options = .ok planned) :
    run start color elapsed machine arguments =
      let (outcomes, workspace) :=
        planned.outcomes (start planned.checkout.scratchDirectory) machine.disk
      (.ended (Outcome.exitCode outcomes) (written color elapsed planned outcomes),
        workspace.disk) := by
  simp only [run, parsed, eq]

/-- But for timing, a run is told the same by both environments. -/
theorem programOf_eq
    (same : ∀ name, name ≠ Settings.timingVariable →
      environment.lookup name = machine.environment.lookup name) :
    Settings.programOf environment = Settings.programOf machine.environment := by
  funext tool
  have named : Settings.programVariable tool ≠ Settings.timingVariable := by
    cases tool <;> decide
  rw [Settings.programOf, Settings.programOf, same _ named]

/-- The settings depend on no timing. -/
theorem settings_eq
    (same : ∀ name, name ≠ Settings.timingVariable →
      environment.lookup name = machine.environment.lookup name)
    (root : other.root = options.root) :
    settings { machine with environment } other = settings machine options := by
  have programs := programOf_eq same
  simp only [settings, root, Settings.discover, Settings.ofRoot, programs]

/-- The plans differ in how they are reported, and in nothing else. -/
theorem plan_eq
    (same : ∀ name, name ≠ Settings.timingVariable →
      environment.lookup name = machine.environment.lookup name)
    (root : other.root = options.root) (only : other.only = options.only) :
    plan { machine with environment } other = (plan machine options).map fun plan =>
      { plan with
        format := other.format.getD .text
        timing := Settings.timing environment } := by
  have scratch : Checkout.scratchPath environment machine.cwd machine.scratchEnding =
      Checkout.scratchPath machine.environment machine.cwd machine.scratchEnding := by
    rw [Checkout.scratchPath, Checkout.scratchPath, same _ (by decide)]
  simp only [plan, settings_eq same root, only, scratch]
  split
  · rfl
  · split
    · rfl
    · split <;> rfl

end Timing

/-- In words, a run prints a heading, an entry for each outcome and the summary. -/
theorem out_written_text (color : Bool) (elapsed : Text → Text) {planned : Plan}
    (outcomes : List Outcome) (format : planned.format = .text) :
    (written color elapsed planned outcomes).out =
      Report.tinted color "1" "0" "\n=== Repository Lint ===\n".toList ++ "\n".toList ++
        outcomes.flatMap (fun outcome => (Report.entry color outcome).out) ++
        Report.summary color outcomes := by
  have header : (opening color planned).out =
      Report.tinted color "1" "0" "\n=== Repository Lint ===\n".toList ++ "\n".toList := by
    rw [opening, if_pos format, Report.header, Report.paint_eq_tinted, Report.line]
    rfl
  have entries : ∀ outcome, (entry color planned (elapsed outcome.name) outcome).out =
      (Report.entry color outcome).out := fun outcome => by rw [entry, format]
  have summary : closing color planned outcomes = Report.summary color outcomes := by
    rw [closing, format]
  rw [written, header, summary, List.flatMap_map]
  simp only [entries]

/-- As JSON, a run writes the layout of its outcomes and a line end. -/
theorem out_written_json (color : Bool) (elapsed : Text → Text) {planned : Plan}
    (outcomes : List Outcome) (format : planned.format = .json) :
    (written color elapsed planned outcomes).out = Report.json outcomes ++ "\n".toList := by
  have silent : ∀ outcomes : List Outcome, outcomes.flatMap (fun _ => ([] : Text)) = [] := by simp
  simp only [written, opening, closing, entry, format, reduceCtorEq, if_false, List.flatMap_map,
    silent, List.nil_append]
  rfl

/-- The reports of the outcomes of a run agree; a summary calls any outcomes clean exactly if the
exit code is zero. Two runs of the command line on a machine, with arguments that ask for the same
but for the format, and with timing or without, end with the same code, that of their outcomes; the
reports that agree are what is printed. -/
theorem reports_agree {σ : Type} (source : Source σ) (launch : Launcher σ)
    (start : Text → Launcher Workspace) (machine : Machine) :
    (∀ outcomes, Report.clean outcomes = true ↔ Outcome.exitCode outcomes = 0) ∧
      (∀ inspections state color,
        Report.Agrees color ((Inspection.runAll source launch inspections state).1.map (·.1))) ∧
      ∀ environment arguments others options other color colorOther elapsed elapsedOther,
        (∀ name, name ≠ Settings.timingVariable →
          environment.lookup name = machine.environment.lookup name) →
        Options.parse {} arguments = .ok options → Options.parse {} others = .ok other →
        other.root = options.root → other.only = options.only →
        ∃ code written writtenOther left,
          run start color elapsed machine arguments = (.ended code written, left) ∧
            run start colorOther elapsedOther { machine with environment } others =
              (.ended code writtenOther, left) ∧
            ∀ planned, plan machine options = .ok planned →
              let outcomes :=
                (planned.outcomes (start planned.checkout.scratchDirectory) machine.disk).1
              code = Outcome.exitCode outcomes ∧ Report.Agrees color outcomes ∧
                (planned.format = .text → written.out =
                  Report.tinted color "1" "0" "\n=== Repository Lint ===\n".toList ++
                    "\n".toList ++
                    outcomes.flatMap (fun outcome => (Report.entry color outcome).out) ++
                    Report.summary color outcomes) ∧
                (planned.format = .json →
                  written.out = Report.json outcomes ++ "\n".toList) := by
  refine ⟨Report.clean_iff_exitCode, Inspection.agrees_runAll source launch, ?_⟩
  intro environment arguments others options other color colorOther elapsed elapsedOther same
    parsed parsedOther root only
  have planOther := plan_eq same root only
  cases first : plan machine options with
  | error problem =>
    rw [first] at planOther
    exact ⟨2, _, _, _, run_of_problem start color elapsed parsed first,
      run_of_problem start colorOther elapsedOther parsedOther planOther, fun _ eq => nomatch eq⟩
  | ok planned =>
    have second : plan { machine with environment } other = .ok { planned with
        format := other.format.getD .text
        timing := Settings.timing environment } := by
      rw [planOther, first]
      rfl
    have firstRun := run_of_plan start color elapsed parsed first
    have secondRun := run_of_plan start colorOther elapsedOther parsedOther second
    refine ⟨_, _, _, _, firstRun, secondRun, ?_⟩
    rintro _ ⟨⟩
    exact ⟨rfl, Inspection.agrees_runAll _ _ _ _ color, out_written_text color elapsed _,
      out_written_json color elapsed _⟩

/-! ## A warning, nothing, and a tool that is missing -/

/-- A page and a file that an editor left behind. -/
def twoFiles : Source Nat where
  candidates := [.ofPaths "/t/0".toList "README".toList, .ofPaths "/t/1".toList "a~".toList]
  materialize file count := (.ok file, count)

/-- Checkers of which one finds something, one finds nothing, and one cannot be started. -/
def mixed : List Inspection :=
  [⟨.scan .leftovers, []⟩, ⟨.scan .copyright, []⟩, ⟨.tool .links "liche".toList, []⟩]

/-- No tool is there. -/
def nothingStarts : Launcher Nat := fun _ count => (.error .missing, count + 1)

/-- What comes of the checkers. -/
def mixedOutcomes : List Outcome :=
  (Inspection.runAll twoFiles nothingStarts mixed 0).1.map (·.1)

theorem mixedOutcomes_eq : mixedOutcomes =
    [Outcome.ofResult (.scan .leftovers) (.ok ["remove Emacs backup file: a~".toList]),
      Outcome.ofResult (.scan .copyright) (.ok []),
      Outcome.ofResult (.tool .links "liche".toList)
        (.error (.launch "liche".toList .missing))] := by
  decide +kernel

theorem exitCode_page :
    Outcome.exitCode (pagePlan.outcomes (echo []) pageMachine.disk).1 = 1 := by
  have findings : Tool.findings (PathTable.ofCandidates [page]) .spelling ⟨1, "teh\n".toList⟩ =
      ["teh".toList] := by
    cbv
  have alone : (pagePlan.outcomes (echo []) pageMachine.disk).1 =
      [Outcome.ofResult (.tool .spelling "misspell".toList) (.ok ["teh".toList])] := by
    rw [← findings, ← run_page]
    rfl
  rw [alone]
  rfl

/-- A clean checker, one with a warning and one that could not run, and the replies about a page in
both formats. -/
theorem reports_agree_page :
    Report.clean mixedOutcomes = false ∧ Outcome.exitCode mixedOutcomes = 2 ∧
      Report.summary false mixedOutcomes =
        "\n--- Summary ---\n\n1/3 check(s) reported 1 warning(s), 1 could not run.\n\n".toList ∧
      Report.Agrees true mixedOutcomes ∧
      ∃ written writtenOther left,
        run (fun _ => echo []) false (fun _ => []) pageMachine
            ["--root-dir".toList, "/r".toList, "--only".toList, "misspell".toList] =
          (.ended 1 written, left) ∧
        run (fun _ => echo []) true (fun _ => "2ms".toList)
            { pageMachine with environment := [(Settings.timingVariable, "1".toList)] }
            ["--format=json".toList, "--only=misspell".toList, "--root-dir=/r".toList] =
          (.ended 1 writtenOther, left) := by
  obtain ⟨clean, agrees, calls⟩ := reports_agree twoFiles nothingStarts (fun _ => echo [])
    pageMachine
  have code : Outcome.exitCode mixedOutcomes = 2 := by
    rw [mixedOutcomes_eq]
    rfl
  have summary : Report.summary false mixedOutcomes =
      "\n--- Summary ---\n\n1/3 check(s) reported 1 warning(s), 1 could not run.\n\n".toList := by
    rw [mixedOutcomes_eq]
    decide
  refine ⟨?_, code, summary, agrees mixed 0 true, ?_⟩
  · rw [← Bool.not_eq_true, clean, code]
    decide
  · have same : ∀ name, name ≠ Settings.timingVariable →
        [(Settings.timingVariable, "1".toList)].lookup name =
          pageMachine.environment.lookup name := by
      intro name other
      rw [List.lookup_cons, beq_false_of_ne other]
      rfl
    obtain ⟨code, written, writtenOther, left, first, second, ended⟩ :=
      calls [(Settings.timingVariable, "1".toList)]
        ["--root-dir".toList, "/r".toList, "--only".toList, "misspell".toList]
        ["--format=json".toList, "--only=misspell".toList, "--root-dir=/r".toList]
        pageOptions { pageOptions with format := some .json } false true (fun _ => [])
        (fun _ => "2ms".toList) same (by decide) (by decide) rfl rfl
    obtain ⟨rfl, -⟩ := ended pagePlan plan_page
    rw [exitCode_page] at first second
    exact ⟨written, writtenOther, left, first, second⟩

end CommandLine

end CheckoutLint
