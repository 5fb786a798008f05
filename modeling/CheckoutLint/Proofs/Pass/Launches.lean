import CheckoutLint.Proofs.Pass.Selection

/-!
What a pass starts. Recording the commands as they are started, each with the state in which it is,
changes nothing else about a pass; so what a pass starts can be read off a recorded one.

* `Inspection.run_watched`: a pass that is watched is the pass.
* `Inspection.mem_launches_iff`: a command is started once all its files have been materialized.
-/

namespace CheckoutLint

variable {σ : Type}

/-- The source, with what has been recorded kept as it is. -/
def Source.watched (source : Source σ) : Source (σ × List (Command × σ)) where
  candidates := source.candidates
  materialize file state :=
    let (result, after) := source.materialize file state.1
    (result, after, state.2)

/-- The launcher, recording each command with the state in which it is started. -/
def Launcher.watched (launch : Launcher σ) : Launcher (σ × List (Command × σ)) :=
  fun command state =>
    let (response, after) := launch command state.1
    (response, after, state.2 ++ [(command, state.1)])

/-- To watch the launches changes nothing while files are materialized. -/
theorem Source.materializeAll_watched (source : Source σ) (files : List Candidate) (state : σ)
    (record : List (Command × σ)) :
    source.watched.materializeAll files (state, record) =
      ((source.materializeAll files state).1, (source.materializeAll files state).2, record) := by
  induction files generalizing state with
  | nil => rfl
  | cons file files ih =>
    have step : source.watched.materialize file (state, record) =
        ((source.materialize file state).1, (source.materialize file state).2, record) := rfl
    rw [materializeAll, materializeAll, step]
    cases source.materialize file state with
    | mk result after =>
      cases result with
      | error failure => rfl
      | ok done => simp only [ih]

namespace Inspection

/-- The commands that a check starts, each with the state in which it does. -/
def startedBy (inspection : Inspection) (state : σ) : List (Command × σ) :=
  match inspection.checker with
  | .scan _ => []
  | .tool tool program =>
    if inspection.accepted.isEmpty then []
    else [(tool.command program inspection.tempPaths, state)]

/-- A launcher that does what another one does, and beside it changes a record, changes nothing else
about a check. The record is changed for the commands that the check starts. -/
theorem check_beside {ρ : Type} {launch : Launcher σ} {beside : Launcher (σ × ρ)}
    (note : ρ → Command × σ → ρ)
    (same : ∀ command state record, beside command (state, record) =
      ((launch command state).1, (launch command state).2, note record (command, state)))
    (inspection : Inspection) (state : σ) (record : ρ) :
    inspection.check beside (state, record) =
      ((inspection.check launch state).1, (inspection.check launch state).2,
        (inspection.startedBy state).foldl note record) := by
  obtain ⟨checker, accepted⟩ := inspection
  cases checker with
  | scan scan => rfl
  | tool tool program =>
    by_cases empty : accepted.isEmpty
    · simp [check, startedBy, empty]
    · simp only [check, startedBy, empty, same]
      cases launch (tool.command program (tempPaths ⟨.tool tool program, accepted⟩)) state with
      | mk response after => cases response <;> rfl

/-- A check that is watched adds what it launches to the record. -/
theorem check_watched (launch : Launcher σ) (inspection : Inspection) (state : σ)
    (record : List (Command × σ)) :
    inspection.check launch.watched (state, record) =
      ((inspection.check launch state).1, (inspection.check launch state).2,
        record ++ inspection.startedBy state) := by
  rw [check_beside (fun record started => record ++ [started]) (fun _ _ _ => rfl),
    List.foldl_append_eq_append, ← List.flatMap_def, List.flatMap_singleton']

/-- What a check launches: the command of a tool that holds files, in the state that the check
finds. -/
theorem mem_startedBy_iff {inspection : Inspection} {state there : σ} {command : Command} :
    (command, there) ∈ inspection.startedBy state ↔
      ∃ tool program, inspection.checker = .tool tool program ∧ inspection.accepted ≠ [] ∧
        command = tool.command program inspection.tempPaths ∧ there = state := by
  obtain ⟨checker, accepted⟩ := inspection
  cases checker with
  | scan scan => simp [startedBy]
  | tool tool program =>
    by_cases empty : accepted = []
    · simp [startedBy, empty]
    · have started : startedBy ⟨.tool tool program, accepted⟩ state =
          [(tool.command program (tempPaths ⟨.tool tool program, accepted⟩), state)] := by
        simp [startedBy, empty]
      rw [started, List.mem_singleton, Prod.mk.injEq]
      constructor
      · rintro ⟨rfl, rfl⟩
        exact ⟨tool, program, rfl, empty, rfl, rfl⟩
      · rintro ⟨other, named, same, -, rfl, rfl⟩
        cases same
        exact ⟨rfl, rfl⟩

/-! ## Passes -/

section Run

variable {source : Source σ} {launch : Launcher σ} {inspection : Inspection} {state after : σ}
  {accepted : List Candidate}

/-- The commands that a pass starts, each with the state in which it does. -/
def launches (source : Source σ) (launch : Launcher σ) (inspection : Inspection) (state : σ) :
    List (Command × σ) :=
  (inspection.run source.watched launch.watched (state, [])).2.2

/-- A run whose files fail adds nothing to the record. -/
theorem run_watched_of_failure {failure : Failure} (record : List (Command × σ))
    (h : source.materializeAll (inspection.checker.selection source.candidates) state =
      ((accepted, some failure), after)) :
    inspection.run source.watched launch.watched (state, record) =
      ((inspection.run source launch state).1, after, record) := by
  have watched := source.materializeAll_watched
    (inspection.checker.selection source.candidates) state record
  rw [h] at watched
  rw [run_eq_of_failure launch h]
  exact run_eq_of_failure launch.watched watched

/-- A run whose files are served adds what its check launches. -/
theorem run_watched_of_materialized (record : List (Command × σ))
    (h : source.materializeAll (inspection.checker.selection source.candidates) state =
      ((accepted, none), after)) :
    inspection.run source.watched launch.watched (state, record) =
      ((inspection.run source launch state).1, (inspection.run source launch state).2,
        record ++ (⟨inspection.checker, accepted⟩ : Inspection).startedBy after) := by
  have watched := source.materializeAll_watched
    (inspection.checker.selection source.candidates) state record
  rw [h] at watched
  have run := run_eq_of_materialized launch.watched watched
  rw [check_watched] at run
  rw [run_eq_of_materialized launch h]
  exact run

/-- Watching a pass changes nothing about it but what is recorded. -/
theorem run_watched (source : Source σ) (launch : Launcher σ) (inspection : Inspection) (state : σ)
    (record : List (Command × σ)) :
    inspection.run source.watched launch.watched (state, record) =
      ((inspection.run source launch state).1, (inspection.run source launch state).2,
        record ++ inspection.launches source launch state) := by
  cases result :
      source.materializeAll (inspection.checker.selection source.candidates) state with
  | mk files after =>
    obtain ⟨accepted, failure⟩ := files
    cases failure with
    | some failure =>
      rw [launches, run_watched_of_failure record result, run_watched_of_failure [] result,
        List.append_nil, run_eq_of_failure launch result]
    | none =>
      rw [launches, run_watched_of_materialized record result,
        run_watched_of_materialized [] result, List.nil_append]

/-- A pass starts a command only as a tool over some files, once all of them have been materialized.
-/
theorem mem_launches_iff {command : Command} :
    (command, after) ∈ inspection.launches source launch state ↔
      ∃ tool program accepted, inspection.checker = .tool tool program ∧
        source.materializeAll (inspection.checker.selection source.candidates) state =
          ((accepted, none), after) ∧
        accepted ≠ [] ∧ command = tool.command program (accepted.map Candidate.tempPath) := by
  cases result :
      source.materializeAll (inspection.checker.selection source.candidates) state with
  | mk files there =>
    obtain ⟨accepted, failure⟩ := files
    cases failure with
    | some failure => simp [launches, run_watched_of_failure [] result]
    | none =>
      rw [launches, run_watched_of_materialized [] result, List.nil_append, mem_startedBy_iff]
      constructor
      · rintro ⟨tool, program, named, files, command, rfl⟩
        exact ⟨tool, program, accepted, named, rfl, files, command⟩
      · rintro ⟨tool, program, others, named, same, files, command⟩
        obtain ⟨rfl, rfl⟩ : accepted = others ∧ there = after := by simpa using same
        exact ⟨tool, program, named, files, command, rfl⟩

end Run

end Inspection

end CheckoutLint
