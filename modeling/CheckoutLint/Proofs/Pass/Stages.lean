import CheckoutLint.Checkout
import CheckoutLint.Memory
import CheckoutLint.Proofs.Pass.Launches
import Mathlib

/-!
A pass, stage by stage. The files that the checker looks at are materialized in order. Either there
is a first one that fails, and the pass ends there with this failure; or all of them come back, and
the checker looks at them, a tool being started once if there are any. Which files a pass asks for
is read off a pass that notes them.

* `Source.serves_or_fails`: files come back one and all, or up to a first failure.
* `Inspection.attempts_of_fails`, `Inspection.attempts_of_serves`: the files that a pass asks for.
* `Inspection.run_stages`: what a pass does and what comes of it.
-/

namespace CheckoutLint

variable {σ : Type}

/-! ## Files without their texts -/

/-- The file as it is but for its text. -/
def Candidate.unread (file : Candidate) : Candidate := { file with contents := none }

/-- What does not depend on texts is the same for files that are the same but for their texts. -/
theorem Candidate.map_eq_of_unread {α : Type} (field : Candidate → α)
    (blind : ∀ file : Candidate, field file.unread = field file) {files others : List Candidate}
    (same : files.map unread = others.map unread) : files.map field = others.map field := by
  have fields := congrArg (List.map field) same
  simpa only [List.map_map, Function.comp_def, blind] using fields

namespace Source

variable {source : Source σ} {files before dones : List Candidate} {file : Candidate}
  {state middle after : σ} {failure : Failure}

/-- To materialize a file sets nothing but its text. -/
def SetsOnlyText (source : Source σ) : Prop :=
  ∀ file state done after, source.materialize file state = (.ok done, after) →
    done.unread = file.unread

/-- Materializing files changes nothing but their texts, also if it stops half-way. -/
theorem SetsOnlyText.map_unread (only : source.SetsOnlyText) (files : List Candidate) (state : σ) :
    (source.materializeAll files state).1.1.map Candidate.unread =
      files.map Candidate.unread := by
  induction files generalizing state with
  | nil => rfl
  | cons file files ih =>
    rw [materializeAll]
    cases result : source.materialize file state with
    | mk outcome middle =>
      cases outcome with
      | error failure => rfl
      | ok done =>
        have first := only file state done middle result
        exact List.cons_eq_cons.2 ⟨first, ih middle⟩

/-! ## Materializing one after the other -/

/-- Materializing the files in order succeeds: each is materialized in the state that the one before
it has left, and they come back as `dones`. -/
inductive Serves (source : Source σ) : List Candidate → σ → List Candidate → σ → Prop
  | nil (state : σ) : Serves source [] state [] state
  | cons {file done : Candidate} {files dones : List Candidate} {state middle after : σ} :
    source.materialize file state = (.ok done, middle) → Serves source files middle dones after →
    Serves source (file :: files) state (done :: dones) after

/-- Materializing files in order fails at `file`, the files before it having come back as `dones`.
-/
def FailsAt (source : Source σ) (before : List Candidate) (file : Candidate) (state : σ)
    (dones : List Candidate) (failure : Failure) (after : σ) : Prop :=
  ∃ middle, source.Serves before state dones middle ∧
    source.materialize file middle = (.error failure, after)

/-- Files that are all served are materialized. -/
theorem Serves.materializeAll_eq (served : source.Serves files state dones after) :
    source.materializeAll files state = ((dones, none), after) := by
  induction served with
  | nil state => rfl
  | cons first _ ih => simp only [materializeAll, first, ih]

theorem Serves.eq_nil_iff (served : source.Serves files state dones after) :
    dones = [] ↔ files = [] := by
  cases served <;> simp

theorem Serves.map_unread (served : source.Serves files state dones after)
    (only : source.SetsOnlyText) : dones.map Candidate.unread = files.map Candidate.unread := by
  have same := only.map_unread files state
  rwa [served.materializeAll_eq] at same

/-- Files of which one fails are materialized up to that one. -/
theorem FailsAt.materializeAll_eq (fails : source.FailsAt before file state dones failure after)
    (rest : List Candidate) :
    source.materializeAll (before ++ file :: rest) state =
      ((dones ++ file :: rest, some failure), after) := by
  obtain ⟨middle, served, failed⟩ := fails
  induction served with
  | nil state => simp only [List.nil_append, materializeAll, failed]
  | cons first _ ih => simp only [List.cons_append, materializeAll, first, ih failed]

/-- A file that is served in front leaves the failure where it is. -/
theorem FailsAt.cons {first done : Candidate}
    (served : source.materialize first state = (.ok done, middle))
    (fails : source.FailsAt before file middle dones failure after) :
    source.FailsAt (first :: before) file state (done :: dones) failure after := by
  obtain ⟨there, rest, failed⟩ := fails
  exact ⟨there, .cons served rest, failed⟩

/-- Of files that are materialized in order, all come back, or there is a first one that fails. -/
theorem serves_or_fails (source : Source σ) (files : List Candidate) (state : σ) :
    (∃ dones after, source.Serves files state dones after) ∨
      ∃ before file rest dones failure after, files = before ++ file :: rest ∧
        source.FailsAt before file state dones failure after := by
  induction files generalizing state with
  | nil => exact .inl ⟨[], state, .nil state⟩
  | cons file files ih =>
    cases result : source.materialize file state with
    | mk outcome middle =>
      cases outcome with
      | error failure =>
        exact .inr ⟨[], file, files, [], failure, middle, rfl, state, .nil state, result⟩
      | ok done =>
        rcases ih middle with ⟨dones, after, served⟩ |
          ⟨before, other, rest, dones, failure, after, rfl, fails⟩
        · exact .inl ⟨done :: dones, after, .cons result served⟩
        · exact .inr ⟨file :: before, other, rest, done :: dones, failure, after, rfl,
            fails.cons result⟩

/-! ## Notes of what is asked for -/

/-- The source, noting each file that it is asked to materialize. -/
def noting (source : Source σ) : Source (σ × List Candidate) where
  candidates := source.candidates
  materialize file state :=
    let (result, after) := source.materialize file state.1
    (result, after, state.2 ++ [file])

theorem materialize_noting {result : Except Failure Candidate} (noted : List Candidate)
    (h : source.materialize file state = (result, after)) :
    source.noting.materialize file (state, noted) = (result, after, noted ++ [file]) := by
  simp only [noting, h]

/-- Noting what is materialized changes nothing, and notes all files that are served. -/
theorem Serves.noting (served : source.Serves files state dones after) (noted : List Candidate) :
    source.noting.Serves files (state, noted) dones (after, noted ++ files) := by
  -- Any notes may be there already: each file finds those of the files before it.
  induction served generalizing noted with
  | nil state =>
    rw [List.append_nil]
    exact .nil _
  | @cons file _ _ _ _ _ _ first _ ih =>
    have rest := ih (noted ++ [file])
    rw [List.append_assoc] at rest
    exact .cons (materialize_noting noted first) rest

/-- Where a file fails, what is noted are the files up to that one. -/
theorem FailsAt.noting (fails : source.FailsAt before file state dones failure after)
    (noted : List Candidate) :
    source.noting.FailsAt before file (state, noted) dones failure
      (after, noted ++ before ++ [file]) := by
  obtain ⟨middle, served, failed⟩ := fails
  exact ⟨_, served.noting noted, materialize_noting _ failed⟩

end Source

theorem MemoryFile.setsOnlyText_source (files : List MemoryFile) :
    (source files : Source σ).SetsOnlyText := by
  intro file state done after h
  have result : materialize files file = .ok done := congrArg Prod.fst h
  rw [materialize] at result
  split at result
  · obtain rfl := Except.ok.inj result
    rfl
  · split at result
    · cases result
    · obtain rfl := Except.ok.inj result
      split <;> rfl

/-- A checkout changes nothing of a file but its text. -/
theorem Checkout.setsOnlyText_source (checkout : Checkout) : checkout.source.SetsOnlyText := by
  intro file workspace done after h
  rw [materialize_path h]
  rfl

/-- The launcher, with notes that it does not look at. -/
def Launcher.besideNotes (launch : Launcher σ) : Launcher (σ × List Candidate) :=
  fun command state =>
    let (response, after) := launch command state.1
    (response, after, state.2)

/-! ## Outcomes -/

namespace Outcome

/-- A checker that found nothing. -/
def clean (checker : Checker) : Outcome := ⟨checker.id, checker.name, true, [], none⟩

/-- A checker that could not do its work. -/
def failed (checker : Checker) (failure : Failure) : Outcome :=
  ⟨checker.id, checker.name, false, [], some failure.message⟩

/-- A checker that has done its work, with what it found. -/
def found (checker : Checker) (warnings : List Text) : Outcome :=
  ⟨checker.id, checker.name, warnings.isEmpty, warnings, none⟩

/-- What comes of starting a tool over files: a failure if it could not be started, nothing if it
ended with status zero, and else what its output says. -/
def ofResponse (checker : Checker) (tool : Tool) (program : Text) (files : List Candidate) :
    Response → Outcome
  | .error cause => failed checker (.launch program cause)
  | .ok exit =>
    if exit.status = 0 then clean checker
    else found checker (tool.read (PathTable.ofCandidates files) exit.output)

theorem ofResult_response (checker : Checker) (tool : Tool) (program : Text)
    (files : List Candidate) (response : Response) :
    ofResult checker (match response with
      | .error cause => .error (.launch program cause)
      | .ok exit => .ok (tool.findings (PathTable.ofCandidates files) exit)) =
      ofResponse checker tool program files response := by
  cases response with
  | error cause => rfl
  | ok exit =>
    by_cases zero : exit.status = 0
    · simp [ofResponse, zero, Tool.findings, Exit.succeeded, ofResult, clean]
    · simp [ofResponse, zero, Tool.findings, Exit.succeeded, ofResult, found]

end Outcome

/-! ## Passes -/

namespace Inspection

variable {source : Source σ} {launch : Launcher σ} {inspection : Inspection} {state after : σ}
  {before rest dones : List Candidate} {file : Candidate} {failure : Failure}

/-- Notes beside the state are left alone by a check. -/
theorem check_besideNotes (launch : Launcher σ) (inspection : Inspection) (state : σ)
    (noted : List Candidate) :
    inspection.check launch.besideNotes (state, noted) =
      ((inspection.check launch state).1, (inspection.check launch state).2, noted) := by
  rw [check_beside (fun noted _ => noted) (fun _ _ _ => rfl), List.foldl_fixed]

/-- The files that a pass asks to have materialized, in order. -/
def attempts (source : Source σ) (launch : Launcher σ) (inspection : Inspection) (state : σ) :
    List Candidate :=
  (inspection.run source.noting launch.besideNotes (state, [])).2.2

/-- A pass asks for no file behind the first one that fails. -/
theorem attempts_of_fails
    (selected : inspection.checker.selection source.candidates = before ++ file :: rest)
    (fails : source.FailsAt before file state dones failure after) :
    inspection.attempts source launch state = before ++ [file] := by
  have noted := (fails.noting []).materializeAll_eq rest
  rw [← selected] at noted
  rw [attempts, run_eq_of_failure launch.besideNotes noted, List.nil_append]

/-- A pass asks for all files that the checker looks at if none of them fails. -/
theorem attempts_of_serves
    (served : source.Serves (inspection.checker.selection source.candidates) state dones after) :
    inspection.attempts source launch state = inspection.checker.selection source.candidates := by
  have noted := (served.noting []).materializeAll_eq
  rw [attempts, run_eq_of_materialized launch.besideNotes noted, check_besideNotes,
    List.nil_append]

/-- With a file that fails there is no launch, and the failure is the outcome. -/
theorem run_of_fails (launch : Launcher σ)
    (selected : inspection.checker.selection source.candidates = before ++ file :: rest)
    (fails : source.FailsAt before file state dones failure after) :
    inspection.run source launch state =
        ((Outcome.failed inspection.checker failure, ⟨inspection.checker, dones ++ file :: rest⟩),
          after) ∧
      inspection.launches source launch state = [] := by
  have materialized := fails.materializeAll_eq rest
  rw [← selected] at materialized
  refine ⟨run_eq_of_failure launch materialized, ?_⟩
  rw [launches, run_watched_of_failure [] materialized]

section Served

variable
  (served : source.Serves (inspection.checker.selection source.candidates) state dones after)
include served

/-- A scan launches nothing and finds what it finds in each file. -/
theorem run_scan_of_serves {scan : Scan} (named : inspection.checker = .scan scan) :
    inspection.launches source launch state = [] ∧
      inspection.run source launch state =
        ((Outcome.found inspection.checker (dones.flatMap scan.warnings),
          ⟨inspection.checker, dones⟩), after) := by
  have materialized := served.materializeAll_eq
  have checked : (⟨inspection.checker, dones⟩ : Inspection).check launch after =
      (.ok (dones.flatMap scan.warnings), after) := check_scan launch after named
  constructor
  · rw [launches, run_watched_of_materialized [] materialized, startedBy, named]
    rfl
  · rw [run_eq_of_materialized launch materialized, checked]
    rfl

/-- Without files a tool is not launched. -/
theorem run_tool_of_serves_nil {tool : Tool} {program : Text}
    (named : inspection.checker = .tool tool program) (empty : dones = []) :
    inspection.launches source launch state = [] ∧
      inspection.run source launch state =
        ((Outcome.clean inspection.checker, ⟨inspection.checker, []⟩), after) := by
  have materialized := served.materializeAll_eq
  subst empty
  constructor
  · rw [launches, run_watched_of_materialized [] materialized, startedBy, named]
    rfl
  · rw [run_eq_of_materialized launch materialized, check, named]
    rfl

/-- With files a tool is launched once, with its options and their temp paths. -/
theorem run_tool_of_serves {tool : Tool} {program : Text}
    (named : inspection.checker = .tool tool program) (files : dones ≠ []) :
    let command : Command := ⟨program, tool.options ++ dones.map Candidate.tempPath⟩
    inspection.launches source launch state = [(command, after)] ∧
      inspection.run source launch state =
        ((Outcome.ofResponse inspection.checker tool program dones (launch command after).1,
          ⟨inspection.checker, dones⟩), (launch command after).2) := by
  intro command
  have materialized := served.materializeAll_eq
  have checked := check_tool launch after
    (show (⟨inspection.checker, dones⟩ : Inspection).checker = .tool tool program from named) files
  constructor
  · have some : dones.isEmpty = false := by simpa using files
    rw [launches, run_watched_of_materialized [] materialized, startedBy, named]
    simp only [some, Bool.false_eq_true, if_false, List.nil_append]
    rfl
  · rw [run_eq_of_materialized launch materialized, checked, ← Outcome.ofResult_response]
    rfl

end Served

/-- A pass ends with the first file that cannot be materialized, has asked for those up to it, and
starts nothing. If all files of the checker come back, the pass has asked for each of them once; a
scan looks at them and starts nothing; and a tool is started once, over their temp paths in order,
if there are any files, and else not at all. -/
theorem run_stages (source : Source σ) (launch : Launcher σ) (inspection : Inspection) (state : σ) :
    (∃ before file rest dones failure after,
      inspection.checker.selection source.candidates = before ++ file :: rest ∧
        source.FailsAt before file state dones failure after ∧
        inspection.run source launch state =
          ((Outcome.failed inspection.checker failure,
            ⟨inspection.checker, dones ++ file :: rest⟩), after) ∧
        inspection.attempts source launch state = before ++ [file] ∧
        inspection.launches source launch state = []) ∨
      ∃ dones after,
        source.Serves (inspection.checker.selection source.candidates) state dones after ∧
          (source.SetsOnlyText → dones.map Candidate.tempPath =
            (source.candidates.filter inspection.checker.accepts).map Candidate.tempPath) ∧
          inspection.attempts source launch state =
            inspection.checker.selection source.candidates ∧
          (∀ scan, inspection.checker = .scan scan →
            inspection.launches source launch state = [] ∧
              inspection.run source launch state =
                ((Outcome.found inspection.checker (dones.flatMap scan.warnings),
                  ⟨inspection.checker, dones⟩), after)) ∧
          ∀ tool program, inspection.checker = .tool tool program →
            (inspection.checker.selection source.candidates = [] →
              inspection.launches source launch state = [] ∧
                inspection.run source launch state =
                  ((Outcome.clean inspection.checker, ⟨inspection.checker, []⟩), after)) ∧
            (inspection.checker.selection source.candidates ≠ [] →
              let command : Command := ⟨program, tool.options ++ dones.map Candidate.tempPath⟩
              inspection.launches source launch state = [(command, after)] ∧
                inspection.run source launch state =
                  ((Outcome.ofResponse inspection.checker tool program dones
                    (launch command after).1, ⟨inspection.checker, dones⟩),
                    (launch command after).2)) := by
  rcases source.serves_or_fails (inspection.checker.selection source.candidates) state with
    ⟨dones, after, served⟩ | ⟨before, file, rest, dones, failure, after, selected, fails⟩
  · have empty := served.eq_nil_iff
    refine .inr ⟨dones, after, served, fun only => ?_, attempts_of_serves served,
      fun scan named => run_scan_of_serves served named, fun tool program named =>
        ⟨fun none => run_tool_of_serves_nil served named (empty.2 none),
          fun some => run_tool_of_serves served named fun none => some (empty.1 none)⟩⟩
    rw [Candidate.map_eq_of_unread Candidate.tempPath (fun _ => rfl) (served.map_unread only),
      Checker.map_tempPath_selection]
  · obtain ⟨run, launches⟩ := run_of_fails launch selected fails
    exact .inl ⟨before, file, rest, dones, failure, after, selected, fails, run,
      attempts_of_fails selected fails, launches⟩

/-! ## A page that is offered twice -/

/-- A page in memory that is listed twice, around a file that no tool looks at. -/
def heldFiles : List MemoryFile :=
  [("/t/0", "TODO"), ("/t/1", "main.c"), ("/t/0", "TODO")].map fun (temp, path) =>
    ⟨temp.toList, path.toList, none, none⟩

/-- The page, as a tool accepts it. -/
def heldPage : Candidate :=
  { Candidate.ofPaths "/t/0".toList "TODO".toList with needs := { localCopy := true } }

/-- The spell checker, left from an earlier pass with a file that is no longer offered. -/
def staleSpelling : Inspection :=
  ⟨.tool .spelling "misspell".toList, [Candidate.ofPaths "/t/9".toList "TODO.md".toList]⟩

/-- A tool that ends with a negative status; it counts how often it is started. -/
def negativeTool : Launcher Nat := fun _ launches =>
  (.ok ⟨-1, "/t/0:1: teh\n".toList⟩, launches + 1)

theorem materializeAll_heldFiles :
    (MemoryFile.source heldFiles : Source Nat).materializeAll
        (staleSpelling.checker.selection (MemoryFile.source heldFiles : Source Nat).candidates) 0 =
      (([heldPage, heldPage], none), 0) := by
  decide

/-- Two files with one temp path and a tool that fails: one launch, with the path twice. -/
theorem run_heldFiles :
    (MemoryFile.source heldFiles : Source Nat).SetsOnlyText ∧
      staleSpelling.checker.selection (MemoryFile.source heldFiles : Source Nat).candidates =
        [heldPage, heldPage] ∧
      [heldPage, heldPage].map Candidate.tempPath =
        ((MemoryFile.source heldFiles : Source Nat).candidates.filter
          staleSpelling.checker.accepts).map Candidate.tempPath ∧
      staleSpelling.attempts (MemoryFile.source heldFiles) negativeTool 0 =
        [heldPage, heldPage] ∧
      staleSpelling.launches (MemoryFile.source heldFiles) negativeTool 0 =
        [(⟨"misspell".toList, ["-error", "true", "/t/0", "/t/0"].map String.toList⟩, 0)] ∧
      (staleSpelling.run (MemoryFile.source heldFiles) negativeTool 0).1.1 =
        ⟨"misspell".toList, "Misspellings".toList, false, ["TODO:1: teh".toList], none⟩ := by
  have only : (MemoryFile.source heldFiles : Source Nat).SetsOnlyText :=
    MemoryFile.setsOnlyText_source heldFiles
  have selected : staleSpelling.checker.selection
      (MemoryFile.source heldFiles : Source Nat).candidates = [heldPage, heldPage] := by
    decide
  have materialized := materializeAll_heldFiles
  rcases run_stages (MemoryFile.source heldFiles) negativeTool staleSpelling 0 with
    ⟨before, file, rest, dones, failure, after, split, fails, -⟩ |
      ⟨dones, after, served, temps, attempts, -, tool⟩
  · have stopped := fails.materializeAll_eq rest
    rw [← split, materialized] at stopped
    cases congrArg (fun result => result.1.2) stopped
  · have same := served.materializeAll_eq.symm.trans materialized
    obtain ⟨rfl, rfl⟩ : dones = [heldPage, heldPage] ∧ after = 0 := by simpa using same
    obtain ⟨launches, run⟩ := (tool .spelling "misspell".toList rfl).2 (by simp [selected])
    refine ⟨only, selected, temps only, attempts.trans selected, launches.trans (by decide), ?_⟩
    have ended : negativeTool ⟨"misspell".toList,
        Tool.spelling.options ++ [heldPage, heldPage].map Candidate.tempPath⟩ 0 =
          (.ok ⟨-1, "/t/0:1: teh\n".toList⟩, 1) := rfl
    have read : Tool.spelling.read (PathTable.ofCandidates [heldPage, heldPage])
        "/t/0:1: teh\n".toList = ["TODO:1: teh".toList] := by
      cbv
    simp only [run, ended, Outcome.ofResponse, read]
    rfl

end Inspection

end CheckoutLint
