import CheckoutLint.CommandLine.Run
import CheckoutLint.Proofs.Checkout.Scratch
import CheckoutLint.Proofs.Pass.Selection
import Mathlib

/-!
Passes do not disturb each other. They share one scratch directory, and one that fails leaves it
half filled; but what the next one finds there is what it would have put there itself. So the
outcome of a checker is its own, wherever its pass stands among others.

* `Launcher.Steady`: what is asked of the programs that are started.
* `Faithful.materializeAll`, `check_eq`, `run_eq`: the parts of a pass, and all of it.
* `outcomes_eq`: the outcomes of any passes in any order are those of each pass alone.
-/

namespace CheckoutLint

/-- The bytes that a path leads to: those of the copy there, else those on disk. -/
def Workspace.bytesOf (workspace : Workspace) (cwd : Place) (path : Text) : Option (List UInt8) :=
  match workspace.copy? path with
  | some (.file bytes _) => some bytes
  | some _ => none
  | none => (workspace.disk.read cwd (Text.utf8 path)).toOption

/-- Programs that answer by their arguments and by the bytes of the files named there. They write
neither to the scratch directory nor to what matters of the checkout. -/
structure Launcher.Steady (launch : Launcher Workspace) (checkout : Checkout) : Prop where
  response : ∀ command workspace other,
    (∀ path ∈ command.arguments,
      workspace.bytesOf checkout.cwd path = other.bytesOf checkout.cwd path) →
    (launch command workspace).1 = (launch command other).1
  scratch : ∀ command workspace, (launch command workspace).2.scratch = workspace.scratch
  used : ∀ command workspace path, checkout.Uses path →
    (launch command workspace).2.disk.find checkout.cwd path =
      workspace.disk.find checkout.cwd path

namespace Checkout

/-- What materializing files in order comes to. -/
def readyAll (checkout : Checkout) (disk : Disk) :
    List Candidate → List Candidate × Option Failure
  | [] => ([], none)
  | file :: files =>
    match checkout.ready disk file with
    | .error failure => (file :: files, some failure)
    | .ok done =>
      let (accepted, failure) := readyAll checkout disk files
      (done :: accepted, failure)

variable {checkout : Checkout} {disk : Disk} {workspace other : Workspace}
  {launch : Launcher Workspace} {files : List Candidate}

/-! ## Materializing -/

/-- On a disk that was only added to, files are materialized as on the first one. -/
theorem Faithful.materializeAll (faithful : checkout.Faithful disk workspace)
    (owned : ∀ file ∈ files, checkout.Owns file) :
    ∃ after, checkout.source.materializeAll files workspace =
        (checkout.readyAll disk files, after) ∧
      checkout.Faithful disk after ∧ workspace.IsWithin after ∧
        ∀ accepted, checkout.readyAll disk files = (accepted, none) →
          (∀ file ∈ files, file.needs.localCopy = true) →
            ∀ file ∈ accepted, checkout.Copied disk after file := by
  induction files generalizing workspace with
  | nil =>
    refine ⟨workspace, rfl, faithful, .refl workspace, ?_⟩
    intro accepted eq _ file mem
    obtain rfl : [] = accepted := congrArg Prod.fst eq
    cases mem
  | cons file files ih =>
    obtain ⟨middle, first, kept, within, copied⟩ :=
      faithful.materialize (owned file List.mem_cons_self)
    have first : checkout.source.materialize file workspace =
        (checkout.ready disk file, middle) := first
    cases result : checkout.ready disk file with
    | error failure =>
      refine ⟨middle, ?_, kept, within, ?_⟩
      · simp only [Source.materializeAll, first, result, readyAll]
      · simp [readyAll, result]
    | ok done =>
      obtain ⟨after, rest, still, beyond, others⟩ :=
        ih kept fun later mem => owned later (List.mem_cons_of_mem _ mem)
      refine ⟨after, ?_, still, within.trans beyond, ?_⟩
      · simp only [Source.materializeAll, first, result, rest, readyAll]
      · intro accepted eq needs later mem
        simp only [readyAll, result, Prod.mk.injEq] at eq
        obtain ⟨rfl, none⟩ := eq
        rcases List.mem_cons.1 mem with rfl | mem
        -- The first copy is still there once the other files have been materialized.
        · exact (copied _ result (needs file List.mem_cons_self)).within beyond
        · exact others _ (Prod.ext rfl none)
            (fun waiting mem => needs waiting (List.mem_cons_of_mem _ mem)) later mem

/-! ## Checking -/

/-- The options of a tool lead to the same bytes before and after. -/
theorem Faithful.bytesOf_option (faithful : checkout.Faithful disk workspace) {tool : Tool}
    {option : Text} (mem : option ∈ tool.options) :
    workspace.bytesOf checkout.cwd option =
      (disk.read checkout.cwd (Text.utf8 option)).toOption := by
  have absent : workspace.copy? option = none := by
    rw [Option.eq_none_iff_forall_ne_some]
    intro node stands
    obtain ⟨file, ⟨number, -, place⟩, rfl, -⟩ := faithful.copies option node stands
    exact ne_tempPath_of_mem_options mem checkout number file.path place
  have same := faithful.used (Text.utf8 option) (.inr ⟨tool, option, mem, rfl⟩)
  simp only [Workspace.bytesOf, absent, Disk.read, same]

/-- Two workspaces with a copy of a file have the same copy. -/
theorem Copied.copy?_eq {file : Candidate} (first : checkout.Copied disk workspace file)
    (second : checkout.Copied disk other file) :
    workspace.copy? file.tempPath = other.copy? file.tempPath := by
  obtain ⟨node, made, stands⟩ := first
  obtain ⟨again, remade, placed⟩ := second
  obtain rfl := Except.ok.inj (made.symm.trans remade)
  rw [stands, placed]

/-- Two workspaces with a copy of a file give the same bytes at its temp path. -/
theorem Copied.bytesOf_eq {file : Candidate} (first : checkout.Copied disk workspace file)
    (second : checkout.Copied disk other file) :
    workspace.bytesOf checkout.cwd file.tempPath = other.bytesOf checkout.cwd file.tempPath := by
  have same := first.copy?_eq second
  obtain ⟨node, -, stands⟩ := second
  rw [stands] at same
  simp only [Workspace.bytesOf, same, stands]
  cases node <;> rfl

/-- A steady tool leaves the files of the checkout as they were. -/
theorem Faithful.after_launch (steady : launch.Steady checkout)
    (faithful : checkout.Faithful disk workspace) (command : Command) :
    checkout.Faithful disk (launch command workspace).2 where
  used path uses := (steady.used command workspace path uses).trans (faithful.used path uses)
  present := by
    rw [steady.scratch]
    exact faithful.present
  copies := by
    simp only [Workspace.copy?, steady.scratch]
    exact faithful.copies

/-- A tool answers alike in two workspaces of a run that both hold the copies of its files. -/
theorem response_eq (steady : launch.Steady checkout)
    (first : checkout.Faithful disk workspace) (second : checkout.Faithful disk other)
    (copied : ∀ file ∈ files, checkout.Copied disk workspace file)
    (copied' : ∀ file ∈ files, checkout.Copied disk other file) (tool : Tool) (program : Text) :
    (launch (tool.command program (files.map Candidate.tempPath)) workspace).1 =
      (launch (tool.command program (files.map Candidate.tempPath)) other).1 := by
  apply steady.response
  intro path mem
  rcases List.mem_append.1 mem with option | temp
  · rw [first.bytesOf_option option, second.bytesOf_option option]
  · obtain ⟨file, found, rfl⟩ := List.mem_map.1 temp
    exact (copied file found).bytesOf_eq (copied' file found)

/-- So does a check, whatever it launches. -/
theorem Faithful.after_check (steady : launch.Steady checkout)
    (faithful : checkout.Faithful disk workspace) (inspection : Inspection) :
    checkout.Faithful disk (inspection.check launch workspace).2 := by
  rcases Inspection.check_state launch inspection workspace with kept | ⟨command, changed⟩
  · rwa [kept]
  · rw [changed]
    exact faithful.after_launch steady command

/-- A check gives the same in two workspaces that hold the same copies. -/
theorem check_eq (steady : launch.Steady checkout) (first : checkout.Faithful disk workspace)
    (second : checkout.Faithful disk other) (inspection : Inspection)
    (copied : ∀ tool program, inspection.checker = .tool tool program →
      ∀ file ∈ inspection.accepted,
        checkout.Copied disk workspace file ∧ checkout.Copied disk other file) :
    (inspection.check launch workspace).1 = (inspection.check launch other).1 := by
  obtain ⟨checker, accepted⟩ := inspection
  cases checker with
  | scan scan => rfl
  | tool tool program =>
    have copied := copied tool program rfl
    have same := response_eq steady first second (fun file mem => (copied file mem).1)
      (fun file mem => (copied file mem).2) tool program
    by_cases files : accepted = []
    · subst files
      rfl
    · rw [Inspection.check_tool launch workspace rfl files,
        Inspection.check_tool launch other rfl files]
      dsimp only [Inspection.tempPaths]
      rw [same]

/-! ## Passes -/

/-- A pass keeps what a run keeps true, also when it fails part-way. -/
theorem Faithful.after_run (steady : launch.Steady checkout)
    (faithful : checkout.Faithful disk workspace) (inspection : Inspection) :
    checkout.Faithful disk (inspection.run checkout.source launch workspace).2 := by
  have owned : ∀ file ∈ inspection.checker.selection checkout.candidates, checkout.Owns file :=
    fun file mem => owns_of_mem_selection mem
  obtain ⟨after, materialized, kept, -⟩ := faithful.materializeAll owned
  cases result : checkout.readyAll disk (inspection.checker.selection checkout.candidates) with
  | mk accepted failure =>
    rw [result] at materialized
    cases failure with
    | some failure =>
      rw [Inspection.run_eq_of_failure launch materialized]
      exact kept
    | none =>
      rw [Inspection.run_eq_of_materialized launch materialized]
      exact kept.after_check steady _

/-- What a checker comes to does not depend on what has been copied before, nor on what it had
accepted before. -/
theorem run_eq (steady : launch.Steady checkout) (first : checkout.Faithful disk workspace)
    (second : checkout.Faithful disk other) {inspection again : Inspection}
    (same : inspection.checker = again.checker) :
    (inspection.run checkout.source launch workspace).1 =
      (again.run checkout.source launch other).1 := by
  have owned : ∀ file ∈ inspection.checker.selection checkout.candidates, checkout.Owns file :=
    fun file mem => owns_of_mem_selection mem
  -- Both passes materialize their files alike, though one may copy what the other finds copied.
  obtain ⟨after, materialized, kept, -, copied⟩ := first.materializeAll owned
  obtain ⟨after', materialized', kept', -, copied'⟩ := second.materializeAll owned
  cases result : checkout.readyAll disk (inspection.checker.selection checkout.candidates) with
  | mk accepted failure =>
    rw [result] at materialized
    rw [result, same] at materialized'
    cases failure with
    | some failure =>
      rw [Inspection.run_eq_of_failure launch materialized,
        Inspection.run_eq_of_failure launch materialized', same]
    | none =>
      have checked : ((⟨inspection.checker, accepted⟩ : Inspection).check launch after).1 =
          ((⟨inspection.checker, accepted⟩ : Inspection).check launch after').1 := by
        apply check_eq steady kept kept'
        intro tool program eq file mem
        have needs : ∀ file ∈ inspection.checker.selection checkout.candidates,
            file.needs.localCopy = true := by
          rw [show inspection.checker = .tool tool program from eq]
          exact fun file mem => Checker.localCopy_of_mem_selection mem
        exact ⟨copied _ result needs file mem, copied' _ result needs file mem⟩
      rw [Inspection.run_eq_of_materialized launch materialized,
        Inspection.run_eq_of_materialized launch materialized']
      dsimp only
      rw [checked, same]

/-- Every inspection of a row gives what it gives alone on the first disk. -/
theorem runAll_eq (steady : launch.Steady checkout) (faithful : checkout.Faithful disk workspace)
    (inspections : List Inspection) :
    (Inspection.runAll checkout.source launch inspections workspace).1 =
      inspections.map fun inspection =>
        ((⟨inspection.checker, []⟩ : Inspection).run checkout.source launch { disk }).1 := by
  induction inspections generalizing workspace with
  | nil => rfl
  | cons inspection inspections ih =>
    have fresh := faithful_fresh checkout disk
    have alone : (inspection.run checkout.source launch workspace).1 =
        ((⟨inspection.checker, []⟩ : Inspection).run checkout.source launch { disk }).1 :=
      run_eq steady faithful fresh rfl
    have rest := ih (faithful.after_run steady inspection)
    simp only [Inspection.runAll, List.map_cons, rest, ← alone]

end Checkout

/-! ## Picked checkers -/

theorem Outcome.id_ofResult (checker : Checker) (result : Except Failure (List Text)) :
    (ofResult checker result).id = checker.id := by
  cases result <;> rfl

theorem Inspection.id_run {σ : Type} (source : Source σ) (launch : Launcher σ)
    (inspection : Inspection) (state : σ) :
    (inspection.run source launch state).1.1.id = inspection.checker.id :=
  Outcome.id_ofResult inspection.checker _

namespace CommandLine

/-- A run with named checkers is planned like a run of all checkers, but for its choice of them. -/
theorem plan_of_only {machine : Machine} {options : Options} {picked : Plan}
    (h : plan machine options = .ok picked) :
    ∃ full, plan machine { options with only := [] } = .ok full ∧
      picked = { full with
        checkers := full.checkers.filter fun checker =>
          options.only.isEmpty || options.only.contains checker.id } := by
  have unnamed : settings machine { options with only := [] } = settings machine options := rfl
  have every (checkers : List Checker) : select checkers [] = .ok checkers := by
    simp [select]
  cases found : settings machine options with
  | error problem => simp [plan, found] at h
  | ok settings =>
    cases chosen : select settings.checkers options.only with
    | error problem => simp [plan, found, chosen] at h
    | ok checkers =>
      cases opened : Checkout.ofDisk machine.disk machine.sight machine.cwd settings
          (Checkout.scratchPath machine.environment machine.cwd machine.scratchEnding) with
      | error failure => simp [plan, found, chosen, opened] at h
      | ok checkout =>
        obtain rfl : _ = picked := by simpa [plan, found, chosen, opened] using h
        refine ⟨⟨checkout, settings.checkers, options.format.getD .text,
          Settings.timing machine.environment⟩, ?_, ?_⟩
        · simp only [plan, unnamed, found, every, opened]
        · rw [(select_ok_iff.1 chosen).2]

/-- The outcomes of a plan are those of its checkers, each alone on the disk. -/
theorem Plan.outcomes_eq {plan : Plan} {launch : Launcher Workspace}
    (steady : launch.Steady plan.checkout) (disk : Disk) :
    (plan.outcomes launch disk).1 = plan.checkers.map fun checker =>
      ((⟨checker, []⟩ : Inspection).run plan.checkout.source launch { disk }).1.1 := by
  have fresh := Checkout.faithful_fresh plan.checkout disk
  simp only [outcomes, Checkout.runAll_eq steady fresh, inspections, List.map_map]
  rfl

/-- The outcomes of passes over a checkout that share a scratch directory, empty at first, are those
of each pass alone, whatever passes they are and in whatever order they stand; and so a run of named
checkers gives of the outcomes of a full run those of the checkers named. -/
theorem outcomes_independent (launch : Launcher Workspace) :
    (∀ (checkout : Checkout) (disk : Disk) (inspections : List Inspection),
      launch.Steady checkout →
        (Inspection.runAll checkout.source launch inspections { disk }).1.map (·.1) =
          inspections.map fun inspection =>
            ((⟨inspection.checker, []⟩ : Inspection).run checkout.source launch { disk }).1.1) ∧
      ∀ (machine : Machine) (options : Options) (picked : Plan),
        plan machine options = .ok picked → launch.Steady picked.checkout →
          ∃ full, plan machine { options with only := [] } = .ok full ∧
            (picked.outcomes launch machine.disk).1 =
              (full.outcomes launch machine.disk).1.filter fun outcome =>
                options.only.isEmpty || options.only.contains outcome.id := by
  constructor
  · intro checkout disk inspections steady
    rw [Checkout.runAll_eq steady (Checkout.faithful_fresh checkout disk), List.map_map]
    rfl
  · intro machine options picked planned steady
    obtain ⟨full, unnamed, rfl⟩ := plan_of_only planned
    refine ⟨full, unnamed, ?_⟩
    have whole : launch.Steady full.checkout := steady
    rw [Plan.outcomes_eq steady, Plan.outcomes_eq whole, List.filter_map]
    simp only [Function.comp_def, Inspection.id_run]

/-! ## A page and a program that repeats it -/

/-- Writes the files that its arguments name, and ends with status one. -/
def echo (cwd : Place) : Launcher Workspace := fun command workspace =>
  (.ok ⟨1, (command.arguments.map fun path =>
    ((workspace.bytesOf cwd path).map Text.decodeLossy).getD []).flatten⟩, workspace)

theorem steady_echo (checkout : Checkout) : (echo checkout.cwd).Steady checkout where
  response command workspace other same := by
    have texts : (command.arguments.map fun path =>
          ((workspace.bytesOf checkout.cwd path).map Text.decodeLossy).getD []) =
        command.arguments.map fun path =>
          ((other.bytesOf checkout.cwd path).map Text.decodeLossy).getD [] :=
      List.map_congr_left fun path mem => by rw [same path mem]
    rw [echo, echo, texts]
  scratch _ _ := rfl
  used _ _ _ _ := rfl

/-- The bytes of the page. -/
def pageBytes : List UInt8 := Text.utf8 "teh\n".toList

/-- A machine with one page on it, and room for a scratch directory. -/
def pageMachine : Machine where
  disk := ⟨.directory
    [(Text.utf8 "r".toList, .directory [(Text.utf8 "TODO".toList, .file pageBytes false)]),
      (Text.utf8 "tmp".toList, .directory [])]⟩
  sight := .full
  environment := []
  cwd := []
  scratchEnding := "0".toList

/-- The spell checker is named. -/
def pageOptions : Options := { root := some "/r".toList, only := ["misspell".toList] }

/-- The checkout of the page. -/
def pageCheckout : Checkout :=
  ⟨Text.utf8 "/r".toList, [], "/tmp/repo-lint-0".toList, ["TODO".toList]⟩

/-- The plan for the named checker. -/
def pagePlan : Plan := ⟨pageCheckout, [.tool .spelling "misspell".toList], .text, false⟩

/-- The page, as a tool accepts it. -/
def page : Candidate :=
  ⟨"/tmp/repo-lint-0/0-TODO".toList, "TODO".toList, "TODO".toList, none, { localCopy := true }⟩

/-- The workspace that holds a copy of the page. -/
def pageCopied : Workspace :=
  ⟨pageMachine.disk, some [("/tmp/repo-lint-0/0-TODO".toList, .file pageBytes false)]⟩

theorem walk_page (skip : List Text) :
    pageMachine.disk.walk .full [] (Text.utf8 "/r".toList) skip = .ok ["TODO".toList] := by
  rw [Disk.walk_eq_ok_iff]
  refine ⟨[(Text.utf8 "TODO".toList, .file pageBytes false)], by cbv, ?_⟩
  have listed : Disk.listed .full (Text.utf8 "/r".toList) skip
      [(Text.utf8 "TODO".toList, .file pageBytes false)] = [[Text.utf8 "TODO".toList]] := rfl
  rw [listed]
  cbv

theorem plan_page : plan pageMachine pageOptions = .ok pagePlan := by
  have found : settings pageMachine pageOptions =
      .ok (Settings.ofRoot [] (Text.utf8 "/r".toList)) := rfl
  have chosen : select (Settings.ofRoot [] (Text.utf8 "/r".toList)).checkers pageOptions.only =
      .ok [.tool .spelling "misspell".toList] := by
    rw [select_ok_iff]
    decide
  have scratch : Checkout.scratchPath pageMachine.environment pageMachine.cwd
      pageMachine.scratchEnding = "/tmp/repo-lint-0".toList := by
    cbv
  have located : pageMachine.disk.locate .create [] (Text.utf8 "/tmp/repo-lint-0".toList) =
      .ok [Text.utf8 "repo-lint-0".toList, Text.utf8 "tmp".toList] := by
    cbv
  have opened : Checkout.ofDisk pageMachine.disk pageMachine.sight pageMachine.cwd
      (Settings.ofRoot [] (Text.utf8 "/r".toList)) "/tmp/repo-lint-0".toList =
        .ok pageCheckout := by
    have walked := walk_page (Settings.skips [])
    have here : pageMachine.cwd = [] := rfl
    have sight : pageMachine.sight = .full := rfl
    simp only [Checkout.ofDisk, Settings.ofRoot, here, sight, walked, located]
    rfl
  simp only [plan, found, chosen, scratch, opened]
  rfl

theorem run_page (tool : Tool) (program : Text) :
    ((⟨.tool tool program, []⟩ : Inspection).run pageCheckout.source (echo [])
        { disk := pageMachine.disk }).1.1 =
      Outcome.ofResult (.tool tool program)
        (.ok (tool.findings (PathTable.ofCandidates [page]) ⟨1, "teh\n".toList⟩)) := by
  have selected : (⟨.tool tool program, []⟩ : Inspection).checker.selection
      pageCheckout.source.candidates = [page] := rfl
  have copied : pageCheckout.materialize page { disk := pageMachine.disk } =
      (.ok page, pageCopied) := by
    cbv
  have copied : pageCheckout.source.materialize page { disk := pageMachine.disk } =
      (.ok page, pageCopied) := copied
  have response : echo [] (tool.command program [page.tempPath]) pageCopied =
      (.ok ⟨1, "teh\n".toList⟩, pageCopied) := by
    cases tool <;> cbv
  have materialized : pageCheckout.source.materializeAll
      ((⟨.tool tool program, []⟩ : Inspection).checker.selection pageCheckout.source.candidates)
      { disk := pageMachine.disk } = (([page], none), pageCopied) := by
    simp only [selected, Source.materializeAll, copied]
  rw [Inspection.run_eq_of_materialized (echo []) materialized,
    Inspection.check_tool (echo []) pageCopied rfl (by simp)]
  simp only [Inspection.tempPaths, List.map_cons, List.map_nil, response]
  rfl

/-- Three inspections in a row, of which two are the same, give what each gives alone. -/
theorem outcomes_page :
    (echo []).Steady pageCheckout ∧
      (Inspection.runAll pageCheckout.source (echo [])
          [⟨.tool .spelling "misspell".toList, []⟩, ⟨.tool .links "liche".toList, [page]⟩,
            ⟨.tool .spelling "misspell".toList, []⟩] { disk := pageMachine.disk }).1.map (·.1) =
        [Outcome.ofResult (.tool .spelling "misspell".toList) (.ok ["teh".toList]),
          Outcome.ofResult (.tool .links "liche".toList) (.ok []),
          Outcome.ofResult (.tool .spelling "misspell".toList) (.ok ["teh".toList])] ∧
      plan pageMachine pageOptions = .ok pagePlan ∧
      ∃ full, plan pageMachine { pageOptions with only := [] } = .ok full ∧
        (pagePlan.outcomes (echo []) pageMachine.disk).1 =
          (full.outcomes (echo []) pageMachine.disk).1.filter fun outcome =>
            ["misspell".toList].contains outcome.id := by
  have steady := steady_echo pageCheckout
  obtain ⟨alone, picked⟩ := outcomes_independent (echo [])
  refine ⟨steady, ?_, plan_page, picked pageMachine pageOptions pagePlan plan_page steady⟩
  have spelling : Tool.findings (PathTable.ofCandidates [page]) .spelling ⟨1, "teh\n".toList⟩ =
      ["teh".toList] := by
    cbv
  have links : Tool.findings (PathTable.ofCandidates [page]) .links ⟨1, "teh\n".toList⟩ = [] := by
    cbv
  rw [alone pageCheckout pageMachine.disk _ steady]
  simp only [List.map_cons, List.map_nil, run_page, spelling, links]

end CommandLine

end CheckoutLint
