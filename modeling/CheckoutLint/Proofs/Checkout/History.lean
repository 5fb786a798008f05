import CheckoutLint.Proofs.Checkout.Scratch
import CheckoutLint.Proofs.Pass.Launches
import Mathlib

/-!
The scratch directory over a whole history, in which the checkout may change between any two uses of
it. A step can only add copies, made of what the disk holds at that step, and only at temp paths
where nothing stands. So what stands in the scratch directory was copied once, from the file whose
temp path it is at, and has been left alone since; and a tool finds there what its arguments name.

* `Fills`: what materializing files does to a workspace, whether it succeeds or not.
* `Step.exists_fills`: what one step does to the scratch directory.
* `exists_first_copy`, `isWithin_workspaceAfter`, `present_of_mem_launches`: what holds of every
  history.
-/

namespace CheckoutLint

/-- Programs that do not write to the scratch directory. They may change the disk. -/
def Launcher.StaysOutside (launch : Launcher Workspace) : Prop :=
  ∀ command workspace, (launch command workspace).2.scratch = workspace.scratch

namespace Checkout

variable {checkout : Checkout} {workspace before middle after : Workspace} {file : Candidate}
  {files : List Candidate}

/-! ## Candidates -/

/-- A file of a checkout is one of its candidates, but for what has been raised or read. -/
theorem exists_candidate_of_owns (owned : checkout.Owns file) :
    ∃ candidate ∈ checkout.candidates,
      candidate.tempPath = file.tempPath ∧ candidate.path = file.path := by
  obtain ⟨number, found, place⟩ := owned
  have listed := candidates_tempPath found
  exact ⟨_, List.mem_of_getElem? listed, place.symm, rfl⟩

/-- No two candidates share a temp path. -/
theorem eq_of_tempPath_eq {first second : Candidate} (mem : first ∈ checkout.candidates)
    (mem' : second ∈ checkout.candidates) (same : first.tempPath = second.tempPath) :
    first = second := by
  have path := (owns_of_mem_candidates mem).path_eq (owns_of_mem_candidates mem') same
  obtain ⟨⟨path₁, number₁⟩, -, rfl⟩ := List.mem_map.1 mem
  obtain ⟨⟨path₂, number₂⟩, -, rfl⟩ := List.mem_map.1 mem'
  obtain rfl : path₁ = path₂ := path
  have same : checkout.tempPath number₁ path₁ = checkout.tempPath number₂ path₁ := same
  simp only [same]

/-- What is copied is a file with the bytes that are read from its place. -/
theorem read_of_copyOf {disk : Disk} {node : Node} (copied : checkout.copyOf disk file = .ok node) :
    ∃ bytes executable, node = .file bytes executable ∧
      disk.read checkout.cwd (checkout.sourcePath file.path) = .ok bytes := by
  rw [copyOf, Disk.regular] at copied
  rw [Disk.read]
  cases found : disk.find checkout.cwd (checkout.sourcePath file.path) with
  | error cause => simp [found] at copied
  | ok source =>
    cases source with
    | file bytes executable =>
      simp only [found] at copied
      split at copied
      · cases copied
      · exact ⟨bytes, executable, (Except.ok.inj copied).symm, rfl⟩
    | directory | link | pipe => simp [found] at copied

/-! ## Filling the scratch directory -/

/-- A workspace in which copies have been made: the disk is as it was, all copies are still there,
and each new one is a copy of the file whose temp path it is at. -/
structure Fills (checkout : Checkout) (before after : Workspace) : Prop where
  disk : after.disk = before.disk
  kept : before.IsWithin after
  copied : ∀ path node, before.copy? path = none → after.copy? path = some node →
    ∃ file, checkout.Owns file ∧ file.tempPath = path ∧
      checkout.copyOf before.disk file = .ok node

theorem Fills.refl (checkout : Checkout) (workspace : Workspace) :
    checkout.Fills workspace workspace where
  disk := rfl
  kept := .refl workspace
  copied path node absent present := by
    rw [absent] at present
    cases present

theorem Fills.trans (first : checkout.Fills before middle) (second : checkout.Fills middle after) :
    checkout.Fills before after where
  disk := second.disk.trans first.disk
  kept := first.kept.trans second.kept
  copied path node absent present := by
    cases found : middle.copy? path with
    | none =>
      obtain ⟨file, owned, place, made⟩ := second.copied path node found present
      exact ⟨file, owned, place, first.disk ▸ made⟩
    | some other =>
      have same := (second.kept path other found).symm.trans present
      obtain rfl := Option.some.inj same
      exact first.copied path other absent found

/-- Nothing is copied once the scratch directory is gone. -/
theorem copy_ne_ok_of_missing (absent : workspace.copy? file.tempPath = none)
    (missing : workspace.scratch = none) : checkout.copy file workspace ≠ .ok after := by
  simp only [copy, absent, missing]
  split
  · simp
  · split <;> simp

/-- A copy is made of the file, at its temp path, and only if nothing stands there. -/
theorem fills_of_copy (owned : checkout.Owns file)
    (copied : checkout.copy file workspace = .ok after) :
    checkout.Fills workspace after ∧ ∃ node, after.copy? file.tempPath = some node := by
  cases found : workspace.copy? file.tempPath with
  | some node =>
    rw [copy_of_present found] at copied
    obtain rfl := Except.ok.inj copied
    exact ⟨.refl checkout workspace, node, found⟩
  | none =>
    cases scratch : workspace.scratch with
    | none => exact absurd copied (copy_ne_ok_of_missing found scratch)
    | some entries =>
      rw [copy_of_absent found scratch] at copied
      cases made : checkout.copyOf workspace.disk file with
      | error cause =>
        rw [made] at copied
        cases copied
      | ok node =>
        rw [made] at copied
        obtain rfl := Except.ok.inj copied
        have lookup := Workspace.copy?_concat scratch file.tempPath node
        refine ⟨⟨rfl, ?_, ?_⟩, node, ?_⟩
        · intro path other stands
          rw [lookup, stands, Option.some_or]
        · intro path other absent present
          rw [lookup, absent, Option.none_or, Option.ite_none_right_eq_some,
            Option.some.injEq] at present
          obtain ⟨rfl, rfl⟩ := present
          exact ⟨file, owned, rfl, made⟩
        · rw [lookup, found, Option.none_or, if_pos rfl]

/-- An attempt to materialize a file fills the scratch directory, also when it fails; and if a copy
is asked for and the attempt succeeds, there is one. -/
theorem fills_materialize (owned : checkout.Owns file) (workspace : Workspace) :
    checkout.Fills workspace (checkout.materialize file workspace).2 ∧
      ∀ done, (checkout.materialize file workspace).1 = .ok done →
        done.tempPath = file.tempPath ∧
          (file.needs.localCopy = true →
            ∃ node, (checkout.materialize file workspace).2.copy? file.tempPath = some node) := by
  have temp {disk : Disk} {done : Candidate} (h : checkout.withText disk file = .ok done) :
      done.tempPath = file.tempPath := by
    rw [withText_eq_ok h]
  rw [materialize_eq]
  cases needs : file.needs.localCopy with
  | false =>
    exact ⟨.refl checkout workspace, fun done h => ⟨temp h, by simp⟩⟩
  | true =>
    cases copied : checkout.copy file workspace with
    | error cause => exact ⟨.refl checkout workspace, fun done h => by cases h⟩
    | ok after =>
      obtain ⟨fills, present⟩ := fills_of_copy owned copied
      exact ⟨fills, fun done h => ⟨temp h, fun _ => present⟩⟩

/-- Materializing files one after the other fills the scratch directory, up to the first failure; if
there is none, every copy that was asked for is there at the end. -/
theorem fills_materializeAll (owned : ∀ file ∈ files, checkout.Owns file) (workspace : Workspace) :
    checkout.Fills workspace (checkout.source.materializeAll files workspace).2 ∧
      ∀ accepted, (checkout.source.materializeAll files workspace).1 = (accepted, none) →
        accepted.map Candidate.tempPath = files.map Candidate.tempPath ∧
          ∀ file ∈ files, file.needs.localCopy = true → ∃ node,
            (checkout.source.materializeAll files workspace).2.copy? file.tempPath = some node := by
  induction files generalizing workspace with
  | nil =>
    refine ⟨.refl checkout workspace, fun accepted h => ?_⟩
    obtain rfl : [] = accepted := congrArg Prod.fst h
    exact ⟨rfl, fun file mem => by cases mem⟩
  | cons file files ih =>
    obtain ⟨fills, ok⟩ := fills_materialize (owned file List.mem_cons_self) workspace
    have step : checkout.source.materialize file workspace = checkout.materialize file workspace :=
      rfl
    rw [Source.materializeAll, step]
    cases result : checkout.materialize file workspace with
    | mk outcome middle =>
      rw [result] at fills ok
      cases outcome with
      | error failure => exact ⟨fills, fun accepted h => by cases congrArg Prod.snd h⟩
      | ok done =>
        obtain ⟨place, present⟩ := ok done rfl
        obtain ⟨rest, others⟩ :=
          ih (fun later mem => owned later (List.mem_cons_of_mem _ mem)) middle
        refine ⟨fills.trans rest, fun accepted h => ?_⟩
        obtain ⟨rfl, none⟩ := Prod.mk.inj h
        obtain ⟨places, copies⟩ := others _ (Prod.ext rfl none)
        refine ⟨by rw [List.map_cons, List.map_cons, place, places], fun later mem needs => ?_⟩
        rcases List.mem_cons.1 mem with rfl | mem
        -- The copy of the first file is still there once the others have been materialized.
        · obtain ⟨node, stands⟩ := present needs
          exact ⟨node, rest.kept _ node stands⟩
        · exact copies later mem needs

/-! ## Steps -/

/-- What may happen to a checkout and its scratch directory: the disk is changed in any way, a
candidate is materialized with any needs, or a checker makes a pass, with a tool that stays outside
the scratch directory. -/
inductive Step (checkout : Checkout) where
  | edit (change : Disk → Disk)
  | materialize (file : Candidate) (owned : checkout.Owns file)
  | run (inspection : Inspection) (launch : Launcher Workspace) (outside : launch.StaysOutside)

/-- What a step makes of a workspace. -/
def Step.apply : Step checkout → Workspace → Workspace
  | .edit change, workspace => { workspace with disk := change workspace.disk }
  | .materialize file _, workspace => (checkout.materialize file workspace).2
  | .run inspection launch _, workspace => (inspection.run checkout.source launch workspace).2

theorem Step.apply_edit (change : Disk → Disk) (workspace : Workspace) :
    (Step.edit change : Step checkout).apply workspace =
      ⟨change workspace.disk, workspace.scratch⟩ :=
  rfl

/-- After a pass the scratch directory is as materializing the files of the pass has left it. -/
theorem run_scratch {launch : Launcher Workspace} (outside : launch.StaysOutside)
    (inspection : Inspection) (workspace : Workspace) :
    (inspection.run checkout.source launch workspace).2.scratch =
      (checkout.source.materializeAll (inspection.checker.selection checkout.candidates)
        workspace).2.scratch := by
  cases result : checkout.source.materializeAll
      (inspection.checker.selection checkout.candidates) workspace with
  | mk files filled =>
    obtain ⟨accepted, failure⟩ := files
    cases failure with
    | some failure => rw [Inspection.run_eq_of_failure launch result]
    | none =>
      rw [Inspection.run_eq_of_materialized launch result]
      rcases Inspection.check_state launch ⟨inspection.checker, accepted⟩ filled with
        kept | ⟨command, changed⟩
      · exact congrArg Workspace.scratch kept
      · exact (congrArg Workspace.scratch changed).trans (outside command filled)

/-- A step does nothing to the scratch directory but make copies in it. -/
theorem Step.exists_fills (step : Step checkout) (workspace : Workspace) :
    ∃ filled, checkout.Fills workspace filled ∧
      (step.apply workspace).scratch = filled.scratch := by
  cases step with
  | edit change => exact ⟨workspace, .refl checkout workspace, rfl⟩
  | materialize file owned => exact ⟨_, (fills_materialize owned workspace).1, rfl⟩
  | run inspection launch outside =>
    have owned : ∀ file ∈ inspection.checker.selection checkout.candidates, checkout.Owns file :=
      fun file mem => owns_of_mem_selection mem
    exact ⟨_, (fills_materializeAll owned workspace).1, run_scratch outside inspection workspace⟩

/-- A step keeps the copies that were there. -/
theorem Step.isWithin_apply (step : Step checkout) (workspace : Workspace) :
    workspace.IsWithin (step.apply workspace) := by
  obtain ⟨filled, fills, scratch⟩ := step.exists_fills workspace
  intro path node stands
  have kept := fills.kept path node stands
  rwa [Workspace.copy?, scratch]

/-- What a step adds at a path is a copy of what the disk then holds of a candidate, the one whose
temp path it is. -/
theorem Step.exists_candidate_of_copied (step : Step checkout) {path : Text} {node : Node}
    (absent : workspace.copy? path = none)
    (present : (step.apply workspace).copy? path = some node) :
    ∃ file ∈ checkout.candidates, file.tempPath = path ∧ ∃ bytes executable,
      node = .file bytes executable ∧
        workspace.disk.read checkout.cwd (checkout.sourcePath file.path) = .ok bytes := by
  obtain ⟨filled, fills, scratch⟩ := step.exists_fills workspace
  rw [Workspace.copy?, scratch] at present
  obtain ⟨file, owned, place, made⟩ := fills.copied path node absent present
  obtain ⟨candidate, mem, temp, same⟩ := exists_candidate_of_owns owned
  have read := read_of_copyOf made
  exact ⟨candidate, mem, temp.trans place, same ▸ read⟩

/-! ## Histories -/

/-- The workspace after steps, over a disk at first, with an empty scratch directory. -/
def workspaceAfter (disk : Disk) (steps : List (Step checkout)) : Workspace :=
  steps.foldl (fun workspace step => step.apply workspace) { disk }

variable {disk : Disk} {steps : List (Step checkout)}

theorem workspaceAfter_concat (disk : Disk) (steps : List (Step checkout)) (step : Step checkout) :
    workspaceAfter disk (steps ++ [step]) = step.apply (workspaceAfter disk steps) := by
  simp [workspaceAfter]

/-- What has been copied stays as it is. -/
theorem isWithin_workspaceAfter (disk : Disk) (earlier later : List (Step checkout)) :
    (workspaceAfter disk earlier).IsWithin (workspaceAfter disk (earlier ++ later)) := by
  induction later using List.reverseRecOn with
  | nil =>
    rw [List.append_nil]
    exact .refl _
  | append_singleton later step ih =>
    rw [← List.append_assoc, workspaceAfter_concat]
    exact ih.trans (step.isWithin_apply _)

/-- What stands in the scratch directory has been put there by one of the steps. -/
theorem exists_first_copy {path : Text} {node : Node}
    (present : (workspaceAfter disk steps).copy? path = some node) :
    ∃ earlier step later, steps = earlier ++ step :: later ∧
      (workspaceAfter disk earlier).copy? path = none ∧
      (step.apply (workspaceAfter disk earlier)).copy? path = some node := by
  induction steps using List.reverseRecOn with
  | nil => simp [workspaceAfter, Workspace.copy?] at present
  | append_singleton steps step ih =>
    rw [workspaceAfter_concat] at present
    cases before : (workspaceAfter disk steps).copy? path with
    | none => exact ⟨steps, step, [], rfl, before, present⟩
    | some other =>
      have same := (step.isWithin_apply _ path other before).symm.trans present
      obtain rfl := Option.some.inj same
      obtain ⟨earlier, first, later, rfl, absent, copied⟩ := ih before
      exact ⟨earlier, first, later ++ [step], by simp, absent, copied⟩

/-- A tool that leaves the scratch directory alone finds there what the pass leaves behind. -/
theorem scratch_of_mem_launches {inspection : Inspection} {launch : Launcher Workspace}
    {command : Command} {there : Workspace} (outside : launch.StaysOutside)
    (started : (command, there) ∈ inspection.launches checkout.source launch workspace) :
    (inspection.run checkout.source launch workspace).2.scratch = there.scratch := by
  obtain ⟨_, _, _, -, materialized, -⟩ := Inspection.mem_launches_iff.1 started
  exact (run_scratch outside inspection workspace).trans (congrArg (·.2.scratch) materialized)

/-- What a pass starts is a tool over the accepted candidates, and each temp path that it names has
its copy. -/
theorem present_of_mem_launches {inspection : Inspection} {launch : Launcher Workspace}
    {command : Command} {there : Workspace}
    (started : (command, there) ∈ inspection.launches checkout.source launch workspace) :
    ∃ tool program, inspection.checker = .tool tool program ∧
      command = tool.command program
        ((checkout.candidates.filter inspection.checker.accepts).map Candidate.tempPath) ∧
      ∀ file ∈ checkout.candidates, file.tempPath ∈ command.arguments →
        ∃ node, there.copy? file.tempPath = some node := by
  obtain ⟨tool, program, accepted, named, materialized, -, rfl⟩ :=
    Inspection.mem_launches_iff.1 started
  have owned : ∀ file ∈ inspection.checker.selection checkout.candidates, checkout.Owns file :=
    fun file mem => owns_of_mem_selection mem
  have materialized : checkout.source.materializeAll
      (inspection.checker.selection checkout.candidates) workspace = ((accepted, none), there) :=
    materialized
  have copied := (fills_materializeAll owned workspace).2
  rw [materialized] at copied
  obtain ⟨places, copies⟩ := copied accepted rfl
  refine ⟨tool, program, named, ?_, ?_⟩
  · rw [places, Checker.map_tempPath_selection]
  · intro file mem argument
    rcases List.mem_append.1 argument with option | temp
    -- An option would have to be a temp path itself.
    · obtain ⟨number, -, place⟩ := owns_of_mem_candidates mem
      exact absurd place (ne_tempPath_of_mem_options option checkout number file.path)
    · rw [places] at temp
      obtain ⟨picked, found, same⟩ := List.mem_map.1 temp
      have needs : picked.needs.localCopy = true := by
        rw [named] at found
        exact Checker.localCopy_of_mem_selection found
      exact same ▸ copies picked found needs

/-- Whatever happens to a checkout and in whatever order: what stands in the scratch directory is at
the temp path of one candidate, as it was on disk when the copy was made, and stays so; and when a
pass starts a tool, there is a copy at each temp path that it is given. -/
theorem copied_once_and_kept (checkout : Checkout) (disk : Disk) (steps : List (Step checkout)) :
    (∀ path node, (workspaceAfter disk steps).copy? path = some node →
      ∃ file ∈ checkout.candidates, file.tempPath = path ∧
        (∀ other ∈ checkout.candidates, other.tempPath = path → other = file) ∧
        ∃ earlier step later, steps = earlier ++ step :: later ∧
          (workspaceAfter disk earlier).copy? path = none ∧
          (workspaceAfter disk (earlier ++ [step])).copy? path = some node ∧
          ∃ bytes executable, node = .file bytes executable ∧
            (workspaceAfter disk earlier).disk.read checkout.cwd
              (checkout.sourcePath file.path) = .ok bytes) ∧
    (∀ earlier later, steps = earlier ++ later → ∀ path node,
      (workspaceAfter disk earlier).copy? path = some node →
        (workspaceAfter disk steps).copy? path = some node) ∧
    ∀ earlier inspection launch outside later,
      steps = earlier ++ Step.run inspection launch outside :: later →
      ∀ command there, (command, there) ∈
          inspection.launches checkout.source launch (workspaceAfter disk earlier) →
        there.scratch =
          (workspaceAfter disk (earlier ++ [Step.run inspection launch outside])).scratch ∧
        ∃ tool program, inspection.checker = .tool tool program ∧
          command = tool.command program
            ((checkout.candidates.filter inspection.checker.accepts).map Candidate.tempPath) ∧
          ∀ file ∈ checkout.candidates, file.tempPath ∈ command.arguments →
            ∃ node, there.copy? file.tempPath = some node := by
  refine ⟨?copied, ?kept, ?present⟩
  case copied =>
    intro path node stands
    obtain ⟨earlier, step, later, split, absent, present⟩ := exists_first_copy stands
    obtain ⟨file, mem, place, made⟩ := step.exists_candidate_of_copied absent present
    refine ⟨file, mem, place, ?_, earlier, step, later, split, absent, ?_, made⟩
    · intro other others same
      exact eq_of_tempPath_eq others mem (same.trans place.symm)
    · rw [workspaceAfter_concat]
      exact present
  case kept =>
    rintro earlier later rfl
    exact isWithin_workspaceAfter disk earlier later
  case present =>
    intro earlier inspection launch outside later _ command there started
    refine ⟨?_, present_of_mem_launches started⟩
    rw [workspaceAfter_concat]
    exact (scratch_of_mem_launches outside started).symm

/-! ### A page that is rewritten -/

/-- A disk with pages of one name in several directories. -/
def shelf (texts : List (String × String)) : Disk :=
  let directories := texts.map fun (name, text) =>
    (Text.utf8 name.toList,
      Node.directory [(Text.utf8 "TODO".toList, .file (Text.utf8 text.toList) false)])
  ⟨.directory [(Text.utf8 "r".toList, .directory directories)]⟩

/-- The checkout of two such pages. -/
def shelfCheckout : Checkout :=
  ⟨Text.utf8 "/r".toList, [], "/s".toList, ["a/TODO".toList, "b/TODO".toList]⟩

/-- The pages, as a tool accepts them. -/
def shelfPages : List Candidate :=
  shelfCheckout.candidates.map fun file => { file with needs := { localCopy := true } }

/-- The first texts of the pages, copied. -/
def shelfCopies : List (Text × Node) :=
  [("/s/0-TODO".toList, .file (Text.utf8 "teh".toList) false),
    ("/s/1-TODO".toList, .file (Text.utf8 "ok".toList) false)]

/-- The spell checker, before its pass. -/
def spelling : Inspection := ⟨.tool .spelling "misspell".toList, []⟩

/-- A program that finds nothing. -/
def silent : Launcher Workspace := fun _ workspace => (.ok ⟨0, []⟩, workspace)

theorem staysOutside_silent : silent.StaysOutside := fun _ _ => rfl

/-- The pass of the spell checker. -/
def spellingPass : Step shelfCheckout := .run spelling silent staysOutside_silent

/-- The first page is to be copied. -/
def firstCopy : Step shelfCheckout :=
  .materialize { Candidate.ofPaths "/s/0-TODO".toList "a/TODO".toList with
    needs := { localCopy := true } } ⟨0, rfl, rfl⟩

/-- The first page cannot be copied before it is there; it is copied, with the other one, for a
pass, and both copies are still there for a second pass, when the first page has another text and
the second one is gone. -/
def rewrittenPage : List (Step shelfCheckout) :=
  [firstCopy, .edit fun _ => shelf [("a", "teh"), ("b", "ok")], spellingPass,
    .edit fun _ => shelf [("a", "the")], spellingPass]

theorem apply_firstCopy : firstCopy.apply { disk := shelf [] } = { disk := shelf [] } := by
  cbv

theorem apply_spellingPass {workspace after : Workspace}
    (materialized : shelfCheckout.source.materializeAll shelfPages workspace =
      ((shelfPages, none), after)) :
    spellingPass.apply workspace = after := by
  have materialized : shelfCheckout.source.materializeAll
      (spelling.checker.selection shelfCheckout.source.candidates) workspace =
        ((shelfPages, none), after) := materialized
  rw [spellingPass, Step.apply, Inspection.run_eq_of_materialized silent materialized]
  rfl

theorem materializeAll_shelfPages :
    shelfCheckout.source.materializeAll shelfPages ⟨shelf [("a", "teh"), ("b", "ok")], some []⟩ =
      ((shelfPages, none), ⟨shelf [("a", "teh"), ("b", "ok")], some shelfCopies⟩) := by
  cbv

theorem materializeAll_shelfPages_again :
    shelfCheckout.source.materializeAll shelfPages ⟨shelf [("a", "the")], some shelfCopies⟩ =
      ((shelfPages, none), ⟨shelf [("a", "the")], some shelfCopies⟩) := by
  cbv

theorem workspaceAfter_rewrittenPage :
    workspaceAfter (shelf []) (rewrittenPage.take 4) =
        ⟨shelf [("a", "the")], some shelfCopies⟩ ∧
      workspaceAfter (shelf []) rewrittenPage = ⟨shelf [("a", "the")], some shelfCopies⟩ := by
  have first := apply_spellingPass materializeAll_shelfPages
  have second := apply_spellingPass materializeAll_shelfPages_again
  constructor
  · rw [rewrittenPage, List.take_succ_cons, List.take_succ_cons, List.take_succ_cons,
      List.take_succ_cons, List.take_zero, workspaceAfter, List.foldl_cons, apply_firstCopy,
      List.foldl_cons, Step.apply_edit, List.foldl_cons, first, List.foldl_cons, Step.apply_edit,
      List.foldl_nil]
  · rw [rewrittenPage, workspaceAfter, List.foldl_cons, apply_firstCopy, List.foldl_cons,
      Step.apply_edit, List.foldl_cons, first, List.foldl_cons, Step.apply_edit, List.foldl_cons,
      second, List.foldl_nil]

/-- A page is rewritten behind its first copy: the copy stays, and the tool is given the first text.
-/
theorem rewrittenPage_kept :
    (workspaceAfter (shelf []) rewrittenPage).disk.read [] (Text.utf8 "/r/a/TODO".toList) =
        .ok (Text.utf8 "the".toList) ∧
      (workspaceAfter (shelf []) rewrittenPage).copy? "/s/0-TODO".toList =
        some (.file (Text.utf8 "teh".toList) false) ∧
      (∃ earlier step later, rewrittenPage = earlier ++ step :: later ∧
        (workspaceAfter (shelf []) earlier).copy? "/s/0-TODO".toList = none ∧
        (workspaceAfter (shelf []) earlier).disk.read [] (Text.utf8 "/r/a/TODO".toList) =
          .ok (Text.utf8 "teh".toList)) ∧
      ∃ command there,
        (command, there) ∈ spelling.launches shelfCheckout.source silent
          (workspaceAfter (shelf []) (rewrittenPage.take 4)) ∧
        command.arguments = ["-error".toList, "true".toList, "/s/0-TODO".toList,
          "/s/1-TODO".toList] ∧
        ∃ node, there.copy? "/s/1-TODO".toList = some node := by
  obtain ⟨before, after⟩ := workspaceAfter_rewrittenPage
  obtain ⟨copied, -, present⟩ := copied_once_and_kept shelfCheckout (shelf []) rewrittenPage
  have stands : (workspaceAfter (shelf []) rewrittenPage).copy? "/s/0-TODO".toList =
      some (.file (Text.utf8 "teh".toList) false) := by
    rw [after]
    cbv
  refine ⟨?_, stands, ?_, ?_⟩
  · rw [after]
    cbv
  · obtain ⟨file, mem, place, -, earlier, step, later, split, absent, -, bytes, executable, same,
      read⟩ := copied _ _ stands
    obtain ⟨rfl, -⟩ := Node.file.inj same
    have path : file.path = "a/TODO".toList := by
      have first : Candidate.ofPaths "/s/0-TODO".toList "a/TODO".toList ∈
          shelfCheckout.candidates := List.mem_cons_self
      rw [eq_of_tempPath_eq mem first place]
      rfl
    rw [path] at read
    exact ⟨earlier, step, later, split, absent, read⟩
  · have started : (spelling.checker.selection shelfCheckout.source.candidates) = shelfPages := rfl
    have launched : (Tool.command .spelling "misspell".toList
        (shelfPages.map Candidate.tempPath), workspaceAfter (shelf []) (rewrittenPage.take 4)) ∈
          spelling.launches shelfCheckout.source silent
            (workspaceAfter (shelf []) (rewrittenPage.take 4)) := by
      rw [Inspection.mem_launches_iff, before, started]
      exact ⟨.spelling, _, shelfPages, rfl, materializeAll_shelfPages_again, by simp [shelfPages,
        shelfCheckout, candidates], rfl⟩
    obtain ⟨-, tool, program, -, -, copies⟩ := present (rewrittenPage.take 4) spelling silent
      staysOutside_silent [] rfl _ _ launched
    refine ⟨_, _, launched, rfl, ?_⟩
    have second : Candidate.ofPaths "/s/1-TODO".toList "b/TODO".toList ∈
        shelfCheckout.candidates := List.mem_cons_of_mem _ List.mem_cons_self
    exact copies _ second (by decide)

end Checkout

end CheckoutLint
