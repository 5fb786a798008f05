import CheckoutLint.Checker
import CheckoutLint.Failure

/-!
A checker at work on the files that it has accepted. Files are offered one by one; the check looks
at what has been accepted since the last reset, in that order.

Main statements:

* `Inspection.accepted_push`: a file goes to the end of the list if the checker looks at such files,
  and its needs are raised.
* `Inspection.check_tool`, `Inspection.check_scan`: what a check does, by kind of checker.
-/

namespace CheckoutLint

/-- A checker with the files that it has accepted. -/
structure Inspection where
  checker : Checker
  accepted : List Candidate := []
  deriving DecidableEq, Repr

namespace Inspection

/-! ## Accepting files -/

/-- Forgets all files. -/
def reset (inspection : Inspection) : Inspection := { inspection with accepted := [] }

/-- Takes a file as it is. -/
def accept (inspection : Inspection) (file : Candidate) : Inspection :=
  { inspection with accepted := inspection.accepted ++ [file] }

/-- Offers a file: taken with its needs raised if the checker looks at such files, else passed over.
-/
def push (inspection : Inspection) (file : Candidate) : Inspection :=
  if inspection.checker.accepts file then
    inspection.accept { file with needs := inspection.checker.require file.needs }
  else inspection

/-- Offers files one by one. -/
def pushAll (inspection : Inspection) (files : List Candidate) : Inspection :=
  files.foldl push inspection

/-- Sets the text of the accepted file with this number, if there is one. -/
def load (inspection : Inspection) (index : Nat) (contents : Option Text) : Inspection :=
  { inspection with
    accepted := inspection.accepted.modify index fun file => { file with contents } }

/-- A pushed file is held, with the needs of the checker, if the checker accepts it. -/
theorem accepted_push (inspection : Inspection) (file : Candidate) :
    (inspection.push file).accepted = inspection.accepted ++
      if inspection.checker.accepts file then
        [{ file with needs := inspection.checker.require file.needs }]
      else [] := by
  rw [push]
  split <;> simp [accept]

theorem checker_push (inspection : Inspection) (file : Candidate) :
    (inspection.push file).checker = inspection.checker := by
  rw [push]
  split <;> rfl

/-! ## Checking -/

/-- Where the copies of the accepted files are. -/
def tempPaths (inspection : Inspection) : List Text := inspection.accepted.map Candidate.tempPath

/-- The table that puts the paths of the accepted files in place of their temp paths. -/
def table (inspection : Inspection) : PathTable := PathTable.ofCandidates inspection.accepted

/-- Looks at the accepted files. A tool is started once, and only if there are files. -/
def check {σ : Type} (launch : Launcher σ) (inspection : Inspection) (state : σ) :
    Except Failure (List Text) × σ :=
  match inspection.checker with
  | .scan scan => (.ok (inspection.accepted.flatMap scan.warnings), state)
  | .tool tool program =>
    if inspection.accepted.isEmpty then (.ok [], state)
    else
      match launch (tool.command program inspection.tempPaths) state with
      | (.error cause, state) => (.error (.launch program cause), state)
      | (.ok exit, state) => (.ok (tool.findings inspection.table exit), state)

/-- A scan checks without launching anything. -/
theorem check_scan {σ : Type} (launch : Launcher σ) {inspection : Inspection} {scan : Scan}
    (state : σ) (h : inspection.checker = .scan scan) :
    inspection.check launch state = (.ok (inspection.accepted.flatMap scan.warnings), state) := by
  simp only [check, h]

/-- A tool that holds files is launched with their temp paths, and its response is read. -/
theorem check_tool {σ : Type} (launch : Launcher σ) {inspection : Inspection} {tool : Tool}
    {program : Text} (state : σ) (h : inspection.checker = .tool tool program)
    (files : inspection.accepted ≠ []) :
    inspection.check launch state =
      let (response, state) := launch (tool.command program inspection.tempPaths) state
      (match response with
        | .error cause => .error (.launch program cause)
        | .ok exit => .ok (tool.findings inspection.table exit), state) := by
  simp only [check, h, List.isEmpty_iff, files, if_false]
  split <;> simp_all

end Inspection

end CheckoutLint
