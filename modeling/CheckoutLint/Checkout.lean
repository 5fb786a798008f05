import CheckoutLint.Disk.Edit
import CheckoutLint.Disk.Walk
import CheckoutLint.Pass
import CheckoutLint.Settings

/-!
A checkout on disk as a source of files. Its files are listed once; each has a temp path of its own
in the scratch directory, made of its number and its base name. A copy is made only if there is none
yet, and a text is read only if none has been read yet.

Main statements:

* `Checkout.candidates_tempPath`: the temp path of a candidate.
* `Checkout.materialize_path`: materializing a file leaves its paths, name and needs alone.
-/

namespace CheckoutLint

/-- What changes during a run: the disk, and the scratch directory, unless that has been taken away.
The disk is kept without the scratch directory; of that is kept what is found by the path of each
entry. Links there have been followed, and one that leads to nothing is not among the entries. -/
structure Workspace where
  disk : Disk
  scratch : Option (List (Text × Node)) := some []

namespace Workspace

/-- What is found in the scratch directory by a path. -/
def copy? (workspace : Workspace) (path : Text) : Option Node :=
  (workspace.scratch.getD []).lookup path

/-- The disk with the scratch directory on it. -/
def whole (workspace : Workspace) (cwd : Place) (directory : Text) : Disk :=
  match workspace.scratch, workspace.disk.locate .create cwd (Text.utf8 directory) with
  | some entries, .ok place =>
    let entries := entries.map fun (path, node) => (Text.utf8 (baseName path), node)
    workspace.disk.put place (.directory entries)
  | _, _ => workspace.disk

/-- What is found by the paths of the entries of a scratch directory on a disk. -/
def held (cwd : Place) (directory : Text) (disk : Disk) (entries : List (Bytes × Node)) :
    List (Text × Node) :=
  entries.filterMap fun (name, _) => do
    let path := Path.join directory (← Text.ofUtf8? name)
    let node ← (disk.find cwd (Text.utf8 path)).toOption
    return (path, node)

/-- The workspace of a disk that has the scratch directory on it. -/
def ofWhole (cwd : Place) (directory : Text) (disk : Disk) : Workspace :=
  match disk.locate .keep cwd (Text.utf8 directory) with
  | .ok place =>
    match disk.at? place with
    | some (.directory entries) =>
      ⟨⟨disk.root.erase place.reverse⟩, some (held cwd directory disk entries)⟩
    | _ => ⟨disk, none⟩
  | .error _ => ⟨disk, none⟩

end Workspace

/-- A checkout, as it was found. -/
structure Checkout where
  /-- The path of the root, as it was given. -/
  root : Bytes
  /-- The directory from which the root is read. -/
  cwd : Place
  /-- The directory for copies. -/
  scratchDirectory : Text
  /-- The paths of the files, in order. -/
  files : List Text
  deriving DecidableEq, Repr

namespace Checkout

/-! ## Opening -/

/-- The variable that names the directory for temporary files. -/
def temporaryVariable : Text := "TMPDIR".toList

/-- What the names of scratch directories begin with. -/
def scratchStart : Text := "repo-lint-".toList

/-- The path of a scratch directory with a given end of its name. -/
def scratchPath (environment : Environment) (cwd : Place) (ending : Text) : Text :=
  let directory := (environment.lookup temporaryVariable).getD "/tmp".toList
  Path.join (Path.join (Text.decodeLossy cwd.path) directory) (scratchStart ++ ending)

/-- Lists the files of a checkout, then makes sure that a scratch directory can be made. -/
def ofDisk (disk : Disk) (sight : Sight) (cwd : Place) (settings : Settings)
    (scratchDirectory : Text) : Except Failure Checkout :=
  match disk.walk sight cwd settings.root settings.skip with
  | .error failure => .error failure
  | .ok files =>
    match disk.locate .create cwd (Text.utf8 scratchDirectory) with
    | .error cause => .error (.system (.atPath cause scratchDirectory))
    | .ok _ => .ok ⟨settings.root, cwd, scratchDirectory, files⟩

/-! ## Candidates -/

/-- Where the copy of a file goes: its number, a dash and its base name. -/
def tempPath (checkout : Checkout) (number : Nat) (path : Text) : Text :=
  Path.join checkout.scratchDirectory (Text.ofNat number ++ '-' :: baseName path)

/-- Fresh candidates, one for each file. -/
def candidates (checkout : Checkout) : List Candidate :=
  checkout.files.zipIdx.map fun (path, number) =>
    Candidate.ofPaths (checkout.tempPath number path) path

/-- The candidate of a number is that of the file listed there, with the temp path of both. -/
theorem candidates_tempPath {checkout : Checkout} {number : Nat} {path : Text}
    (h : checkout.files[number]? = some path) :
    checkout.candidates[number]? =
      some (Candidate.ofPaths (checkout.tempPath number path) path) := by
  simp [candidates, List.getElem?_map, List.getElem?_zipIdx, h]

/-! ## Materializing -/

/-- Where a file of the checkout is looked for on disk. -/
def sourcePath (checkout : Checkout) (path : Text) : Bytes :=
  Path.join checkout.root (Text.utf8 path)

/-- Makes a copy at a file's temp path, unless there is one. -/
def copy (checkout : Checkout) (file : Candidate) (workspace : Workspace) :
    Except SystemError Workspace :=
  match workspace.copy? file.tempPath with
  | some _ => .ok workspace
  | none =>
    match workspace.disk.regular checkout.cwd (checkout.sourcePath file.path) with
    | .error cause => .error cause
    | .ok (bytes, executable) =>
      if Disk.maxName < Text.byteLength (baseName file.tempPath) ∨
          Disk.maxPath < Text.byteLength file.tempPath then .error .nameTooLong
      else
        match workspace.scratch with
        | none => .error .missing
        | some entries =>
          let copied := (file.tempPath, Node.file bytes executable)
          .ok { workspace with scratch := some (entries ++ [copied]) }

/-- Does what a file's needs ask for: a copy first, then its text. -/
def materialize (checkout : Checkout) (file : Candidate) (workspace : Workspace) :
    Except Failure Candidate × Workspace :=
  let source := checkout.sourcePath file.path
  match if file.needs.localCopy then checkout.copy file workspace else .ok workspace with
  | .error cause => (.error (.materialize source cause), workspace)
  | .ok workspace =>
    if file.needs.contents && file.contents.isNone then
      match workspace.disk.read checkout.cwd source with
      | .error cause => (.error (.materialize source cause), workspace)
      | .ok bytes => (.ok { file with contents := some (Text.decodeLossy bytes) }, workspace)
    else (.ok file, workspace)

/-- The checkout as a source of files. -/
def source (checkout : Checkout) : Source Workspace := ⟨checkout.candidates, checkout.materialize⟩

/-- Materializing a file changes nothing of it but its text. -/
theorem materialize_path {checkout : Checkout} {file done : Candidate}
    {workspace after : Workspace}
    (h : checkout.materialize file workspace = (.ok done, after)) :
    done = { file with contents := done.contents } := by
  unfold materialize at h
  dsimp only at h
  split at h
  · simp at h
  · split at h
    · split at h
      · simp at h
      · obtain ⟨rfl, -⟩ := by simpa using h
        rfl
    · obtain ⟨rfl, -⟩ := by simpa using h
      rfl

end Checkout

end CheckoutLint
