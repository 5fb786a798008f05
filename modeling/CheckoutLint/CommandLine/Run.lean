import CheckoutLint.Checkout
import CheckoutLint.CommandLine.Options
import CheckoutLint.Report
import CheckoutLint.Report.Json

/-!
A run of the command line. The root is found first, then the named checkers are looked up, then the
files are listed and the scratch directory is made; each of these may end the run. Then the checkers
work one after the other.

Main statements:

* `CommandLine.select_ok_iff`: a selection succeeds exactly if every name is known, and then holds
  the named checkers in report order.
* `CommandLine.plan_unknown`: an unknown name ends the run before the checkout is looked at.
-/

namespace CheckoutLint.CommandLine

open Report (Written line)

/-- Where a run takes place. -/
structure Machine where
  disk : Disk
  /-- What the system shows of the disk when the checkout is listed. -/
  sight : Sight
  environment : Environment
  cwd : Place
  /-- The end of the name of the scratch directory. -/
  scratchEnding : Text

/-- Why a run ends before any checker works. -/
inductive Problem where
  | noRoot
  | unknownChecker (name : Text)
  | failed (failure : Failure)
  deriving DecidableEq, Repr

/-- How a problem reads. -/
def Problem.message : Problem → Text
  | .noRoot =>
    "Could not find repository root. Run from within a git repository or use --root-dir.".toList
  | .unknownChecker name =>
    "unknown checker '".toList ++ name ++ "'. Known checkers: ".toList ++
      Text.joinWith ", ".toList Checker.ids
  | .failed failure => failure.message

/-! ## Planning -/

/-- The settings of a run: for the root that is given, else for the checkout around the working
directory. -/
def settings (machine : Machine) (options : Options) : Except Problem Settings :=
  match options.root with
  | some root => .ok (Settings.ofRoot machine.environment (Text.utf8 root))
  | none =>
    match Settings.discover machine.disk machine.environment machine.cwd with
    | some settings => .ok settings
    | none => .error .noRoot

/-- The checkers with the given names, in report order; all if no name is given. -/
def select (checkers : List Checker) (only : List Text) : Except Problem (List Checker) :=
  match only.find? fun name => !(checkers.map Checker.id).contains name with
  | some name => .error (.unknownChecker name)
  | none => .ok (checkers.filter fun checker => only.isEmpty || only.contains checker.id)

/-- Checkers are selected just if all names are known, and those that are named, in the order of
all. -/
theorem select_ok_iff {checkers selected : List Checker} {only : List Text} :
    select checkers only = .ok selected ↔
      (∀ name ∈ only, name ∈ checkers.map Checker.id) ∧
        selected = checkers.filter fun checker => only.isEmpty || only.contains checker.id := by
  rw [select]
  split
  · rename_i name found
    have known := List.find?_some found
    have mem := List.mem_of_find?_eq_some found
    simp only [reduceCtorEq, false_iff, not_and]
    intro all
    simp [all name mem] at known
  · rename_i found
    simp only [List.find?_eq_none, Bool.not_eq_true', Bool.not_eq_false] at found
    constructor
    · intro h
      exact ⟨fun name mem => by simpa using found name mem, (Except.ok.inj h).symm⟩
    · rintro ⟨_, rfl⟩
      rfl

/-- What a run is going to do. -/
structure Plan where
  checkout : Checkout
  checkers : List Checker
  format : Format
  timing : Bool

/-- Plans a run. -/
def plan (machine : Machine) (options : Options) : Except Problem Plan :=
  match settings machine options with
  | .error problem => .error problem
  | .ok settings =>
    match select settings.checkers options.only with
    | .error problem => .error problem
    | .ok checkers =>
      let scratch :=
        Checkout.scratchPath machine.environment machine.cwd machine.scratchEnding
      match Checkout.ofDisk machine.disk machine.sight machine.cwd settings scratch with
      | .error failure => .error (.failed failure)
      | .ok checkout =>
        .ok ⟨checkout, checkers, options.format.getD .text, Settings.timing machine.environment⟩

/-- An unknown name is a problem before the disk is looked at. -/
theorem plan_unknown {machine : Machine} {options : Options} {settings' : Settings}
    {problem : Problem} (found : settings machine options = .ok settings')
    (unknown : select settings'.checkers options.only = .error problem) :
    plan machine options = .error problem := by
  simp only [plan, found, unknown]

/-! ## Reporting -/

/-- What is written before the first checker works. -/
def opening (color : Bool) (plan : Plan) : Written where
  out := if plan.format = .text then Report.header color else []
  err :=
    if plan.timing then line ("  scratch dir: ".toList ++ plan.checkout.scratchDirectory) else []

/-- What is written once a checker is done, given the time that it took. -/
def entry (color : Bool) (plan : Plan) (elapsed : Text) (outcome : Outcome) : Written :=
  let time :=
    if plan.timing then line ("  [".toList ++ elapsed ++ "] ".toList ++ outcome.name) else []
  match plan.format with
  | .json => ⟨[], time⟩
  | .text =>
    let shown := Report.entry color outcome
    ⟨shown.out, time ++ shown.err⟩

/-- What is written to standard output at the end. -/
def closing (color : Bool) (plan : Plan) (outcomes : List Outcome) : Text :=
  match plan.format with
  | .json => line (Report.json outcomes)
  | .text => Report.summary color outcomes

/-! ## Running -/

/-- What comes of the command line: it stopped at its arguments, or it ended with a code. -/
inductive Reply where
  | stopped (stop : Stop)
  | ended (code : Nat) (written : Written)
  deriving DecidableEq, Repr

/-- The checkers of a plan at the start. -/
def Plan.inspections (plan : Plan) : List Inspection :=
  plan.checkers.map fun checker => ⟨checker, []⟩

/-- The outcomes of the checkers of a plan, and the workspace that they leave behind. -/
def Plan.outcomes (launch : Launcher Workspace) (plan : Plan) (disk : Disk) :
    List Outcome × Workspace :=
  let (results, workspace) :=
    Inspection.runAll plan.checkout.source launch plan.inspections { disk }
  (results.map (·.1), workspace)

/-- All that a planned run writes, given its outcomes and how long each checker took. -/
def written (color : Bool) (elapsed : Text → Text) (plan : Plan) (outcomes : List Outcome) :
    Written :=
  let first := opening color plan
  let entries := outcomes.map fun outcome => entry color plan (elapsed outcome.name) outcome
  ⟨first.out ++ entries.flatMap Written.out ++ closing color plan outcomes,
    first.err ++ entries.flatMap Written.err⟩

/-- The line that tells the version. -/
def versionLine : Text := line "repo-lint 0.1.0".toList

/-- What a problem makes of a run. -/
def problemReply (problem : Problem) : Reply :=
  .ended 2 ⟨[], line ("Error: ".toList ++ problem.message)⟩

/-- Runs the command line, given what starts tools once the scratch directory is known; gives what
comes of it, and the disk that is left behind, from which the scratch directory has been removed. -/
def run (launch : Text → Launcher Workspace) (color : Bool) (elapsed : Text → Text)
    (machine : Machine) (arguments : List Text) : Reply × Disk :=
  match Options.parse {} arguments with
  | .error stop => (.stopped stop, machine.disk)
  | .ok options =>
    match plan machine options with
    | .error problem => (problemReply problem, machine.disk)
    | .ok plan =>
      let (outcomes, workspace) :=
        plan.outcomes (launch plan.checkout.scratchDirectory) machine.disk
      (.ended (Outcome.exitCode outcomes) (written color elapsed plan outcomes), workspace.disk)

end CheckoutLint.CommandLine
