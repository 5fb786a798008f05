import CheckoutLint.Pass

/-!
What a pass works on. Offering files from the start leaves those that the checker looks at, in order
and with its needs raised, whatever had been accepted before.

* `Inspection.offer_eq`: the checker at work after an offer.
* `Inspection.map_load_eq`: what does not change when a text is set.
* `Inspection.check_of_failed`, `Inspection.check_state`: a check whose tool found something, and
  the state that any check leaves.
* `Inspection.run_eq_of_failure`, `Inspection.run_eq_of_materialized`: a pass, said of the
  selection.
* `Source.materializeAll_of_forall_ok`: materializing files that all can be had in one state.
-/

namespace CheckoutLint

/-- A file with the needs of a checker raised. -/
def Checker.taken (checker : Checker) (file : Candidate) : Candidate :=
  { file with needs := checker.require file.needs }

/-- The files that a checker looks at, with its needs raised. -/
def Checker.selection (checker : Checker) (files : List Candidate) : List Candidate :=
  (files.filter checker.accepts).map checker.taken

/-- What a tool selects is asked for its copy. -/
theorem Checker.localCopy_of_mem_selection {tool : Tool} {program : Text} {file : Candidate}
    {files : List Candidate} (mem : file ∈ (Checker.tool tool program).selection files) :
    file.needs.localCopy = true := by
  obtain ⟨candidate, -, rfl⟩ := List.mem_map.1 mem
  rfl

theorem Checker.map_tempPath_selection (checker : Checker) (files : List Candidate) :
    (checker.selection files).map Candidate.tempPath =
      (files.filter checker.accepts).map Candidate.tempPath := by
  rw [selection, List.map_map]
  rfl

namespace Inspection

theorem checker_pushAll (inspection : Inspection) (files : List Candidate) :
    (inspection.pushAll files).checker = inspection.checker := by
  induction files generalizing inspection with
  | nil => rfl
  | cons file files ih => exact (ih (inspection.push file)).trans (checker_push inspection file)

/-- Pushing files one by one selects them all, in order. -/
theorem accepted_pushAll (inspection : Inspection) (files : List Candidate) :
    (inspection.pushAll files).accepted =
      inspection.accepted ++ inspection.checker.selection files := by
  induction files generalizing inspection with
  | nil => simp [pushAll, Checker.selection]
  | cons file files ih =>
    have rest := ih (inspection.push file)
    rw [checker_push, accepted_push] at rest
    rw [pushAll, List.foldl_cons, ← pushAll, rest, Checker.selection, Checker.selection,
      List.filter_cons, List.append_assoc]
    split <;> rfl

/-- An offer forgets what was accepted before. -/
theorem offer_eq (inspection : Inspection) (files : List Candidate) :
    inspection.offer files = ⟨inspection.checker, inspection.checker.selection files⟩ := by
  have checker := checker_pushAll inspection.reset files
  have accepted := accepted_pushAll inspection.reset files
  rw [offer]
  generalize inspection.reset.pushAll files = offered at checker accepted
  cases offered
  simp_all [reset]

/-- Setting the text of a file changes nothing that is the same for this file with the new text. -/
theorem map_load_eq {α : Type} (field : Candidate → α) (inspection : Inspection) {index : Nat}
    {contents : Option Text}
    (same : ∀ file ∈ inspection.accepted[index]?, field { file with contents } = field file) :
    (inspection.load index contents).accepted.map field = inspection.accepted.map field := by
  apply List.ext_getElem?
  intro place
  simp only [load, List.getElem?_map, List.getElem?_modify]
  cases found : inspection.accepted[place]? with
  | none => rfl
  | some file =>
    simp only [Option.map_eq_map, Option.map_some]
    split
    · rename_i here
      rw [same file (here ▸ found)]
    · rfl

/-- A tool that ends with another status than zero has found what its output says. -/
theorem check_of_failed {σ : Type} {launch : Launcher σ} {inspection : Inspection} {tool : Tool}
    {program : Text} {state after : σ} {exit : Exit}
    (named : inspection.checker = .tool tool program) (files : inspection.accepted ≠ [])
    (launched : launch (tool.command program inspection.tempPaths) state = (.ok exit, after))
    (failed : exit.status ≠ 0) :
    inspection.check launch state = (.ok (tool.read inspection.table exit.output), after) := by
  have found : exit.succeeded = false := by simpa [Exit.succeeded] using failed
  rw [check_tool launch state named files, launched]
  simp only [Tool.findings, found, Bool.false_eq_true, if_false]

/-- A check leaves the state as it is, or as a command that it starts leaves it. -/
theorem check_state {σ : Type} (launch : Launcher σ) (inspection : Inspection) (state : σ) :
    (inspection.check launch state).2 = state ∨
      ∃ command, (inspection.check launch state).2 = (launch command state).2 := by
  rw [check]
  split
  · exact .inl rfl
  · rename_i tool program _
    split
    · exact .inl rfl
    · refine .inr ⟨tool.command program inspection.tempPaths, ?_⟩
      split
      · rename_i eq
        rw [eq]
      · rename_i eq
        rw [eq]

section Run

variable {σ : Type} {source : Source σ} {inspection : Inspection} {state after : σ}
  {accepted : List Candidate}

/-- A run whose files fail gives that failure. -/
theorem run_eq_of_failure (launch : Launcher σ) {failure : Failure}
    (h : source.materializeAll (inspection.checker.selection source.candidates) state =
      ((accepted, some failure), after)) :
    inspection.run source launch state =
      ((Outcome.ofResult inspection.checker (.error failure), ⟨inspection.checker, accepted⟩),
        after) := by
  have materialized : source.materializeAll (inspection.offer source.candidates).accepted state =
      ((accepted, some failure), after) := by
    rw [offer_eq]
    exact h
  rw [run_of_failure launch materialized, offer_eq]

/-- A run whose files are served gives what the check of them gives. -/
theorem run_eq_of_materialized (launch : Launcher σ)
    (h : source.materializeAll (inspection.checker.selection source.candidates) state =
      ((accepted, none), after)) :
    inspection.run source launch state =
      let checked := (⟨inspection.checker, accepted⟩ : Inspection).check launch after
      ((Outcome.ofResult inspection.checker checked.1, ⟨inspection.checker, accepted⟩),
        checked.2) := by
  have materialized : source.materializeAll (inspection.offer source.candidates).accepted state =
      ((accepted, none), after) := by
    rw [offer_eq]
    exact h
  rw [run_of_materialized launch materialized, offer_eq]

end Run

end Inspection

/-- Files that can all be materialized in a state, and leave it as it is, come back in order. -/
theorem Source.materializeAll_of_forall_ok {σ : Type} {source : Source σ} {state : σ}
    {done : Candidate → Candidate} {files : List Candidate}
    (ok : ∀ file ∈ files, source.materialize file state = (.ok (done file), state)) :
    source.materializeAll files state = ((files.map done, none), state) := by
  induction files with
  | nil => rfl
  | cons file files ih =>
    have first := ok file List.mem_cons_self
    have rest := ih fun other mem => ok other (List.mem_cons_of_mem _ mem)
    simp only [materializeAll, first, rest, List.map_cons]

end CheckoutLint
