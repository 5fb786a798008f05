import CheckoutLint.Proofs.Pass.Stages

/-!
A checker over a whole history of what may be done with it. Whatever has been done, and whether it
succeeded or not, the accepted files are those that have been pushed since the last reset and that
the checker looks at, with the one need of the checker raised. Texts are read in between; nothing
else about the files depends on it, nor does the table that puts their paths in place of temp paths.

* `Checker.selection_eq`: what a checker makes of files, said without its choice.
* `Inspection.Keeps.apply`: what one operation makes of the accepted files.
* `Inspection.accepted_performed`: what a history makes of them.
-/

namespace CheckoutLint

variable {σ : Type}

/-! ## What a checker looks at, and what it needs -/

/-- The files that a checker looks at: documentation is known by its base name, a license by its
path, and anything may be a leftover. -/
def Checker.Selects : Checker → Candidate → Prop
  | .tool _ _, file | .scan .acronyms, file | .scan .variables, file =>
    "README".toList <+: file.baseName ∨ "CONTRIBUTING".toList <+: file.baseName ∨
      "TODO".toList <+: file.baseName
  | .scan .copyright, file =>
    file.path = "LICENSE".toList ∨ file.path = "LICENSE.md".toList ∨
      file.path = "LICENSE.txt".toList
  | .scan .leftovers, _ => True

/-- The one need that a checker has of its files: a tool needs copies, and a scan the texts, unless
it looks for leftovers. -/
def Checker.needs : Checker → Needs
  | .tool _ _ => { localCopy := true }
  | .scan .leftovers => {}
  | .scan .copyright | .scan .acronyms | .scan .variables => { contents := true }

/-- What is needed by the one or by the other. -/
def Needs.or (needs other : Needs) : Needs :=
  ⟨needs.localCopy || other.localCopy, needs.contents || other.contents⟩

/-- A name is that of documentation just if it begins with one of three words. -/
theorem isDocumentation_iff {name : Text} :
    isDocumentation name = true ↔
      "README".toList <+: name ∨ "CONTRIBUTING".toList <+: name ∨ "TODO".toList <+: name := by
  simp only [isDocumentation, Bool.or_eq_true, List.isPrefixOf_iff_prefix, or_assoc]

namespace Checker

variable {checker : Checker} {file : Candidate}

/-- A checker accepts what it is said to select. -/
theorem accepts_iff : checker.accepts file = true ↔ checker.Selects file := by
  cases checker with
  | tool tool program => exact isDocumentation_iff
  | scan scan =>
    cases scan with
    | leftovers => simp [accepts, Selects]
    | copyright => simp [accepts, Selects, rootLicenses]
    | acronyms | «variables» => exact isDocumentation_iff

instance (checker : Checker) : DecidablePred checker.Selects :=
  fun _ => decidable_of_iff _ accepts_iff

theorem taken_eq (checker : Checker) (file : Candidate) :
    checker.taken file = { file with needs := file.needs.or checker.needs } := by
  cases checker with
  | tool tool program => simp [taken, require, Needs.or, needs]
  | scan scan => cases scan <;> simp [taken, require, Needs.or, needs]

/-- The files that a checker accepts of those that are pushed. -/
theorem selection_eq (checker : Checker) (files : List Candidate) :
    checker.selection files =
      (files.filter fun file => checker.Selects file).map fun file =>
        { file with needs := file.needs.or checker.needs } := by
  have accepts : checker.accepts = fun file => decide (checker.Selects file) := by
    funext file
    rw [Bool.eq_iff_iff, accepts_iff, decide_eq_true_iff]
  rw [selection, accepts]
  exact List.map_congr_left fun file _ => checker.taken_eq file

theorem selection_concat (checker : Checker) (files : List Candidate) (file : Candidate) :
    checker.selection (files ++ [file]) =
      checker.selection files ++ if checker.accepts file then [checker.taken file] else [] := by
  rw [selection, List.filter_append, List.map_append, ← selection]
  split <;> simp_all

end Checker

namespace PathTable

/-- A table is made of nothing but the two paths of each file. -/
theorem ofCandidates_congr {files others : List Candidate}
    (same : files.map (fun file => (file.tempPath, file.path)) =
      others.map fun file => (file.tempPath, file.path)) :
    ofCandidates files = ofCandidates others := by
  have paths (files : List Candidate) : ofCandidates files =
      (files.map fun file => (file.tempPath, file.path)).foldl
        (fun table paths => table.insertFile (Candidate.ofPaths paths.1 paths.2)) empty := by
    rw [List.foldl_map]
    rfl
  rw [paths, paths, same]

end PathTable

namespace Inspection

/-! ## Operations -/

/-- What may be done with a checker at work: it is reset, a file is pushed, the text of an accepted
file is set, the accepted files are materialized up to the first failure, the accepted files are
checked, or a pass is made. -/
inductive Operation (σ : Type) where
  | reset
  | push (file : Candidate)
  | load (index : Nat) (contents : Option Text)
  | materialize (source : Source σ)
  | check (launch : Launcher σ)
  | run (source : Source σ) (launch : Launcher σ)

namespace Operation

/-- What an operation makes of a checker at work, and of a state. -/
def apply : Operation σ → Inspection × σ → Inspection × σ
  | .reset, (inspection, state) => (inspection.reset, state)
  | .push file, (inspection, state) => (inspection.push file, state)
  | .load index contents, (inspection, state) => (inspection.load index contents, state)
  | .materialize source, (inspection, state) =>
    let ((accepted, _), after) := source.materializeAll inspection.accepted state
    ({ inspection with accepted }, after)
  | .check launch, (inspection, state) => (inspection, (inspection.check launch state).2)
  | .run source launch, (inspection, state) =>
    let ((_, inspection), after) := inspection.run source launch state
    (inspection, after)

/-- The files pushed since the last reset, once an operation has been done. A pass resets the
checker, and pushes all files of its source. -/
def pushed (files : List Candidate) : Operation σ → List Candidate
  | .reset => []
  | .push file => files ++ [file]
  | .run source _ => source.candidates
  | .load _ _ | .materialize _ | .check _ => files

/-- Whether the operation may set the texts of files. -/
def Materializes : Operation σ → Prop
  | .load _ _ | .materialize _ | .run _ _ => True
  | .reset | .push _ | .check _ => False

/-- If the operation materializes files, this sets nothing but their texts. -/
def SetsOnlyText : Operation σ → Prop
  | .materialize source | .run source _ => source.SetsOnlyText
  | .reset | .push _ | .load _ _ | .check _ => True

/-- What a view shows of files does not change when the operation materializes them. -/
def Spares (view : Candidate → Candidate) : Operation σ → Prop
  | .load _ contents => ∀ file : Candidate, view { file with contents } = view file
  | .materialize source | .run source _ =>
    ∀ files state, (source.materializeAll files state).1.1.map view = files.map view
  | .reset | .push _ | .check _ => True

/-- To set texts spares all else. -/
theorem SetsOnlyText.spares_unread {operation : Operation σ} (only : operation.SetsOnlyText) :
    operation.Spares Candidate.unread := by
  cases operation with
  | reset | push | check => trivial
  | load => exact fun file => rfl
  | materialize | run => exact only.map_unread

theorem spares_of_not_materializes {operation : Operation σ} (view : Candidate → Candidate)
    (h : ¬ operation.Materializes) : operation.Spares view := by
  cases operation with
  | reset | push | check => trivial
  | load | materialize | run => exact absurd trivial h

end Operation

/-- A checker after a history that begins when it is made, and the state after it. -/
def performed (checker : Checker) (operations : List (Operation σ)) (state : σ) : Inspection × σ :=
  operations.foldl (fun reached operation => operation.apply reached) (⟨checker, []⟩, state)

/-- The files that a history has pushed since the last reset in it. -/
def pushedBy (operations : List (Operation σ)) : List Candidate :=
  operations.foldl Operation.pushed []

/-! ## What is kept -/

/-- The checker has accepted, of these files, those that it looks at, as far as a view of files
shows it. -/
structure Keeps (view : Candidate → Candidate) (inspection : Inspection) (checker : Checker)
    (files : List Candidate) : Prop where
  checker_eq : inspection.checker = checker
  accepted : inspection.accepted.map view = (checker.selection files).map view

variable {view : Candidate → Candidate} {inspection : Inspection} {checker : Checker}
  {files : List Candidate}

/-- After a pass a checker has what materializing its files has made of them. -/
theorem inspection_run (source : Source σ) (launch : Launcher σ) (inspection : Inspection)
    (state : σ) :
    (inspection.run source launch state).1.2 =
      ⟨inspection.checker, (source.materializeAll
        (inspection.checker.selection source.candidates) state).1.1⟩ := by
  cases result :
      source.materializeAll (inspection.checker.selection source.candidates) state with
  | mk files after =>
    obtain ⟨accepted, failure⟩ := files
    cases failure with
    | some failure => rw [run_eq_of_failure launch result]
    | none => rw [run_eq_of_materialized launch result]

/-- What a checker has accepted stays what it looks at of the files pushed since the last reset. -/
theorem Keeps.apply (keeps : Keeps view inspection checker files) (operation : Operation σ)
    (state : σ) (spares : operation.Spares view) :
    Keeps view (operation.apply (inspection, state)).1 checker (operation.pushed files) := by
  obtain ⟨rfl, accepted⟩ := keeps
  cases operation with
  | reset => exact ⟨rfl, rfl⟩
  | push file =>
    refine ⟨checker_push inspection file, ?_⟩
    rw [Operation.apply, Operation.pushed, accepted_push, Checker.selection_concat,
      List.map_append, List.map_append, accepted]
    rfl
  | load index contents =>
    exact ⟨rfl, (map_load_eq view inspection fun file _ => spares file).trans accepted⟩
  | materialize source => exact ⟨rfl, (spares inspection.accepted state).trans accepted⟩
  | check launch => exact ⟨rfl, accepted⟩
  | run source launch =>
    -- What was accepted before is forgotten, so that the premise on it is not needed here.
    have after : ((Operation.run source launch).apply (inspection, state)).1 =
        (inspection.run source launch state).1.2 := rfl
    rw [after, inspection_run]
    exact ⟨rfl, spares _ state⟩

/-- By induction on the history, with any files pushed before it. -/
theorem Keeps.foldl (keeps : Keeps view inspection checker files)
    (operations : List (Operation σ)) (state : σ)
    (spares : ∀ operation ∈ operations, operation.Spares view) :
    Keeps view (operations.foldl (fun reached operation => operation.apply reached)
      (inspection, state)).1 checker (operations.foldl Operation.pushed files) := by
  induction operations generalizing inspection files state with
  | nil => exact keeps
  | cons operation operations ih =>
    have step := keeps.apply operation state (spares operation List.mem_cons_self)
    exact ih step _ fun later mem => spares later (List.mem_cons_of_mem _ mem)

/-- After any operations an inspection holds what was pushed and selected, as far as they spare it.
-/
theorem keeps_performed (checker : Checker) (operations : List (Operation σ)) (state : σ)
    (spares : ∀ operation ∈ operations, operation.Spares view) :
    Keeps view (performed checker operations state).1 checker (pushedBy operations) :=
  Keeps.foldl ⟨rfl, rfl⟩ operations state spares

/-- The table is that of the files that the checker selects. -/
theorem Keeps.table_eq (keeps : Keeps Candidate.unread inspection checker files) :
    inspection.table =
      PathTable.ofCandidates (files.filter fun file => checker.Selects file) := by
  have paths := Candidate.map_eq_of_unread (fun file => (file.tempPath, file.path)) (fun _ => rfl)
    keeps.accepted
  rw [Checker.selection_eq, List.map_map] at paths
  exact PathTable.ofCandidates_congr paths

/-- The temp paths are those of the files that the checker selects. -/
theorem Keeps.tempPaths_eq (keeps : Keeps Candidate.unread inspection checker files) :
    inspection.tempPaths =
      (files.filter fun file => checker.Selects file).map Candidate.tempPath := by
  rw [tempPaths, Candidate.map_eq_of_unread Candidate.tempPath (fun _ => rfl) keeps.accepted,
    Checker.selection_eq, List.map_map]
  rfl

/-- A file is taken if the checker selects it, and its needs are raised by what the checker needs.
-/
theorem push_eq (inspection : Inspection) (file : Candidate) :
    inspection.push file =
      if inspection.checker.Selects file then
        ⟨inspection.checker, inspection.accepted ++
          [{ file with needs := file.needs.or inspection.checker.needs }]⟩
      else inspection := by
  have raised := inspection.checker.taken_eq file
  rw [Checker.taken] at raised
  rw [push, accept, raised]
  simp only [Checker.accepts_iff]

theorem Keeps.accepted_eq_nil_iff (keeps : Keeps Candidate.unread inspection checker files) :
    inspection.accepted = [] ↔ files.filter (fun file => checker.Selects file) = [] := by
  have paths := keeps.tempPaths_eq
  rw [tempPaths] at paths
  rw [← List.map_eq_nil_iff, paths, List.map_eq_nil_iff]

/-- A check of a tool starts it over the temp paths of the files that have been pushed and that it
looks at, and reads what it says with their table. -/
theorem Keeps.check_eq (keeps : Keeps Candidate.unread inspection checker files) {tool : Tool}
    {program : Text} (named : checker = .tool tool program)
    (some : files.filter (fun file => checker.Selects file) ≠ []) (launch : Launcher σ)
    (state : σ) :
    (inspection.check launch state).1 =
      match (launch ⟨program, tool.options ++ (files.filter fun file =>
          checker.Selects file).map Candidate.tempPath⟩ state).1 with
      | .error cause => .error (.launch program cause)
      | .ok exit => .ok (tool.findings
          (PathTable.ofCandidates (files.filter fun file => checker.Selects file)) exit) := by
  have accepted : inspection.accepted ≠ [] := fun none => some (keeps.accepted_eq_nil_iff.1 none)
  rw [check_tool launch state (keeps.checker_eq.trans named) accepted, keeps.tempPaths_eq,
    keeps.table_eq]
  rfl

/-- After every history the accepted files are, but for texts that have been read since, those that
were pushed since the last reset and that the checker looks at, in order and as often, with its one
need raised; and if nothing has been materialized, also their texts are those they were pushed with.
A file that is pushed then goes to their end with this need raised, or changes nothing; a check
changes nothing about them; and a tool is started over them and read with their table. -/
theorem accepted_performed (checker : Checker) (operations : List (Operation σ)) (state : σ)
    (only : ∀ operation ∈ operations, operation.SetsOnlyText) :
    let inspection := (performed checker operations state).1
    let selected := (pushedBy operations).filter fun file => checker.Selects file
    inspection.checker = checker ∧
      inspection.accepted.map Candidate.unread =
        selected.map (fun file =>
          { file with contents := none, needs := file.needs.or checker.needs }) ∧
      ((∀ operation ∈ operations, ¬ operation.Materializes) →
        inspection.accepted =
          selected.map fun file => { file with needs := file.needs.or checker.needs }) ∧
      (∀ file, inspection.push file =
        if checker.Selects file then
          ⟨checker, inspection.accepted ++ [{ file with needs := file.needs.or checker.needs }]⟩
        else inspection) ∧
      ∀ (launch : Launcher σ) (there : σ),
        ((Operation.check launch).apply (inspection, there)).1 = inspection ∧
          ∀ tool program, checker = .tool tool program → selected ≠ [] →
            (inspection.check launch there).1 =
              match (launch ⟨program, tool.options ++ selected.map Candidate.tempPath⟩ there).1 with
              | .error cause => .error (.launch program cause)
              | .ok exit => .ok (tool.findings (PathTable.ofCandidates selected) exit) := by
  intro inspection selected
  have keeps : Keeps Candidate.unread inspection checker (pushedBy operations) :=
    keeps_performed checker operations state fun operation mem =>
      (only operation mem).spares_unread
  refine ⟨keeps.checker_eq, ?_, fun unread => ?_, fun file => ?_, fun launch there => ⟨rfl, ?_⟩⟩
  · rw [keeps.accepted, Checker.selection_eq, List.map_map]
    rfl
  · have whole : Keeps id inspection checker (pushedBy operations) :=
      keeps_performed checker operations state fun operation mem =>
        Operation.spares_of_not_materializes id (unread operation mem)
    have accepted := whole.accepted
    rwa [List.map_id, List.map_id, Checker.selection_eq] at accepted
  · rw [push_eq, keeps.checker_eq]
  · intro tool program named some
    exact keeps.check_eq named some launch there

/-! ## A pass that fails, and files pushed after it -/

/-- Two pages in memory, the second of which cannot be had. -/
def lostFiles : List MemoryFile :=
  [⟨"/t/0".toList, "TODO".toList, none, none⟩,
    ⟨"/t/1".toList, "README.md".toList, none, some .missing⟩]

/-- A tool that names two copies in a line. -/
def namingTool : Launcher Unit := fun _ state => (.ok ⟨2, "/t/3: see /t/0\n".toList⟩, state)

/-- A page is pushed, then a pass fails, a text is set, and a license and a page are pushed. -/
def failedHistory : List (Operation Unit) :=
  [.push (Candidate.ofPaths "/t/9".toList "TODO".toList),
    .run (MemoryFile.source lostFiles) namingTool, .load 1 (some "text".toList),
    .push (Candidate.ofPaths "/t/2".toList "LICENSE".toList),
    .push (Candidate.ofPaths "/t/3".toList "CONTRIBUTING".toList)]

/-- A history with failures in it holds what was selected, in order. -/
theorem accepted_failedHistory :
    (∀ operation ∈ failedHistory, operation.SetsOnlyText) ∧
      (performed (.tool .spelling "misspell".toList) failedHistory ()).1.accepted.map
          Candidate.unread =
        [("/t/0", "TODO"), ("/t/1", "README.md"), ("/t/3", "CONTRIBUTING")].map (fun (temp, path) =>
          { Candidate.ofPaths temp.toList path.toList with needs := { localCopy := true } }) ∧
      ((performed (.tool .spelling "misspell".toList) failedHistory ()).1.check namingTool ()).1 =
        .ok ["CONTRIBUTING: see TODO".toList] := by
  have only : ∀ operation ∈ failedHistory, operation.SetsOnlyText := by
    simp only [failedHistory, List.forall_mem_cons, List.not_mem_nil, false_implies, implies_true,
      and_true, Operation.SetsOnlyText, true_and]
    exact MemoryFile.setsOnlyText_source lostFiles
  obtain ⟨-, accepted, -, -, checked⟩ :=
    accepted_performed (.tool .spelling "misspell".toList) failedHistory () only
  obtain ⟨-, read⟩ := checked namingTool ()
  refine ⟨only, accepted.trans (by decide), ?_⟩
  rw [read .spelling "misspell".toList rfl (by decide)]
  cbv

end Inspection

end CheckoutLint
