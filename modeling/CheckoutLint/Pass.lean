import CheckoutLint.Inspection
import CheckoutLint.Outcome

/-!
A pass of a checker over a source of files: forget, offer every candidate, have the accepted ones
materialized, check. Materializing stops at the first failure, and then nothing is checked.

Main statements:

* `Inspection.run_of_failure`: a pass that cannot materialize a file reports that failure, and
  leaves the state as the failed attempt left it.
* `Inspection.run_of_materialized`: else the outcome is that of the check.
-/

namespace CheckoutLint

/-- Where files come from. Materializing a file does what its needs ask for, in a state that it may
look at and change. -/
structure Source (σ : Type) where
  candidates : List Candidate
  materialize : Candidate → σ → Except Failure Candidate × σ

namespace Source

/-- Materializes files in order up to the first failure. The files come back as they then are. -/
def materializeAll {σ : Type} (source : Source σ) :
    List Candidate → σ → (List Candidate × Option Failure) × σ
  | [], state => (([], none), state)
  | file :: files, state =>
    match source.materialize file state with
    | (.error failure, state) => ((file :: files, some failure), state)
    | (.ok file, state) =>
      let ((files, failure), state) := materializeAll source files state
      ((file :: files, failure), state)

end Source

namespace Inspection

/-- The files of a source, offered from the start. -/
def offer (inspection : Inspection) (files : List Candidate) : Inspection :=
  inspection.reset.pushAll files

/-- One pass over a source. -/
def run {σ : Type} (source : Source σ) (launch : Launcher σ) (inspection : Inspection) (state : σ) :
    (Outcome × Inspection) × σ :=
  let offered := inspection.offer source.candidates
  let ((accepted, failure), state) := source.materializeAll offered.accepted state
  let ready : Inspection := { offered with accepted }
  let (result, state) :=
    match failure with
    | some failure => (.error failure, state)
    | none => ready.check launch state
  ((Outcome.ofResult inspection.checker result, ready), state)

/-- One pass of each checker, one after the other. -/
def runAll {σ : Type} (source : Source σ) (launch : Launcher σ) :
    List Inspection → σ → List (Outcome × Inspection) × σ
  | [], state => ([], state)
  | inspection :: inspections, state =>
    let (result, state) := inspection.run source launch state
    let (results, state) := runAll source launch inspections state
    (result :: results, state)

/-- A pass in which a file fails has that failure for its result. -/
theorem run_of_failure {σ : Type} {source : Source σ} (launch : Launcher σ)
    {inspection : Inspection} {state after : σ} {accepted : List Candidate} {failure : Failure}
    (h : source.materializeAll (inspection.offer source.candidates).accepted state =
      ((accepted, some failure), after)) :
    inspection.run source launch state =
      ((Outcome.ofResult inspection.checker (.error failure),
        { inspection.offer source.candidates with accepted }), after) := by
  simp only [run, h]

/-- A pass whose files are materialized has what its check finds for its result. -/
theorem run_of_materialized {σ : Type} {source : Source σ} (launch : Launcher σ)
    {inspection : Inspection} {state after : σ} {accepted : List Candidate}
    (h : source.materializeAll (inspection.offer source.candidates).accepted state =
      ((accepted, none), after)) :
    inspection.run source launch state =
      let ready : Inspection := { inspection.offer source.candidates with accepted }
      let (result, after) := ready.check launch after
      ((Outcome.ofResult inspection.checker result, ready), after) := by
  simp only [run, h]

end Inspection

end CheckoutLint
