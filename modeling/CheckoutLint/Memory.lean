import CheckoutLint.Pass

/-!
Files held in memory as a source. Each has the text that reading it gives, and may have a cause for
which every attempt to materialize it fails.
-/

namespace CheckoutLint

/-- A file held in memory. -/
structure MemoryFile where
  tempPath : Text
  path : Text
  contents : Option Text
  failure : Option SystemError
  deriving DecidableEq, Repr

namespace MemoryFile

/-- Materializes a file from the first one in memory with its paths. A file that is not there is
left as it is. -/
def materialize (files : List MemoryFile) (file : Candidate) : Except Failure Candidate :=
  match files.find? fun held => held.tempPath == file.tempPath && held.path == file.path with
  | none => .ok file
  | some held =>
    match held.failure.filter fun _ => file.needs.localCopy || file.needs.contents with
    | some cause => .error (.materialize (Text.utf8 file.path) cause)
    | none => .ok (if file.needs.contents then { file with contents := held.contents } else file)

/-- The files as a source, in any state. -/
def source {σ : Type} (files : List MemoryFile) : Source σ where
  candidates := files.map fun held => Candidate.ofPaths held.tempPath held.path
  materialize file state := (materialize files file, state)

end MemoryFile

end CheckoutLint
