import CheckoutLint.Proofs.Checkout.History
import Mathlib

/-!
One file materialized, and then again. An attempt that fails leaves everything as it was: of a file
that can be copied the text can be read too, so that no copy is left behind by a reading that fails.
One that succeeds settles the file: what it needs is there, and stays there whatever becomes of the
checkout, so that further attempts have nothing to do.

* `Ends`, `ends_materialize`: the two ways in which an attempt can end.
* `IsSettled`, `Ends.isSettled`, `IsSettled.materialize_eq`: what a success has settled is left
  alone.
* `IsSettled.attempts_eq`: so it is over any number of attempts.
-/

namespace CheckoutLint.Checkout

variable {checkout : Checkout} {file done : Candidate} {workspace after later : Workspace}
  {disk : Disk}

/-! ## The text of a file -/

/-- When a text is read, and what the file holds then. -/
theorem withText_eq_ok_iff :
    checkout.withText disk file = .ok done ↔
      if file.needs.contents && file.contents.isNone then
        ∃ bytes, disk.read checkout.cwd (checkout.sourcePath file.path) = .ok bytes ∧
          done = { file with contents := some (Text.decodeLossy bytes) }
      else done = file := by
  rw [withText]
  split
  · cases disk.read checkout.cwd (checkout.sourcePath file.path) with
    | error cause => simp
    | ok bytes => simp [eq_comm]
  · simp [eq_comm]

/-- If a text cannot be read, the failure names the path below the root and the cause. -/
theorem exists_cause_of_withText {failure : Failure}
    (h : checkout.withText disk file = .error failure) :
    ∃ cause, failure = .materialize (checkout.sourcePath file.path) cause ∧
      disk.read checkout.cwd (checkout.sourcePath file.path) = .error cause := by
  rw [withText] at h
  split at h
  · cases read : disk.read checkout.cwd (checkout.sourcePath file.path) with
    | error cause =>
      rw [read] at h
      exact ⟨cause, (Except.error.inj h).symm, rfl⟩
    | ok bytes =>
      rw [read] at h
      cases h
  · cases h

theorem contents_of_withText (h : checkout.withText disk file = .ok done) {text : Text}
    (known : file.contents = some text) : done.contents = some text := by
  rw [withText_eq_ok_iff] at h
  simp only [known, Option.isNone_some, Bool.and_false, Bool.false_eq_true, if_false] at h
  rw [h, known]

theorem contents_of_withText_unasked (h : checkout.withText disk file = .ok done)
    (unasked : file.needs.contents = false) : done.contents = file.contents := by
  rw [withText_eq_ok_iff] at h
  simp only [unasked, Bool.false_and, Bool.false_eq_true, if_false] at h
  rw [h]

/-- A file that is asked for its text has one once that went well. -/
theorem exists_contents_of_withText (h : checkout.withText disk file = .ok done)
    (asked : file.needs.contents = true) : ∃ text, done.contents = some text := by
  cases known : file.contents with
  | some text => exact ⟨text, contents_of_withText h known⟩
  | none =>
    rw [withText_eq_ok_iff] at h
    simp only [known, asked, Option.isNone_none, Bool.and_true, if_true] at h
    obtain ⟨bytes, -, rfl⟩ := h
    exact ⟨_, rfl⟩

/-! ## One attempt -/

/-- `Ends checkout file workspace (result, after)`: an attempt at the file may end with this result
and leave this workspace. -/
inductive Ends (checkout : Checkout) (file : Candidate) (workspace : Workspace) :
    Except Failure Candidate × Workspace → Prop where
  /-- It fails and leaves everything as it was. -/
  | failed (cause : SystemError) :
    Ends checkout file workspace
      (.error (.materialize (checkout.sourcePath file.path) cause), workspace)
  /-- It succeeds: the file has its text, and a copy that is asked for was there before or has been
  made. Nothing else has changed. -/
  | succeeded {done : Candidate} {after : Workspace} (disk : after.disk = workspace.disk)
    (others : ∀ path, path ≠ file.tempPath → after.copy? path = workspace.copy? path)
    (copied : file.needs.localCopy = true → ∃ node, after.copy? file.tempPath = some node ∧
      (workspace.copy? file.tempPath = some node ∨
        checkout.copyOf workspace.disk file = .ok node))
    (text : checkout.withText workspace.disk file = .ok done) :
    Ends checkout file workspace (.ok done, after)

/-- A copy that was there before is left alone; one that is made is there afterwards, and the text
of its file can be read. -/
theorem copy_cases (copied : checkout.copy file workspace = .ok after) :
    (after = workspace ∧ ∃ node, workspace.copy? file.tempPath = some node) ∨
      ∃ node bytes, checkout.copyOf workspace.disk file = .ok node ∧
        workspace.disk.read checkout.cwd (checkout.sourcePath file.path) = .ok bytes ∧
        after.disk = workspace.disk ∧ after.copy? file.tempPath = some node ∧
        ∀ path, path ≠ file.tempPath → after.copy? path = workspace.copy? path := by
  cases found : workspace.copy? file.tempPath with
  | some node =>
    rw [copy_of_present found] at copied
    exact .inl ⟨(Except.ok.inj copied).symm, node, rfl⟩
  | none =>
    cases scratch : workspace.scratch with
    | none => exact absurd copied (copy_ne_ok_of_missing found scratch)
    | some entries =>
      rw [copy_of_absent found scratch] at copied
      cases made : checkout.copyOf workspace.disk file with
      | error cause =>
        rw [made] at copied
        cases copied
      | ok node =>
        rw [made] at copied
        obtain rfl := Except.ok.inj copied
        obtain ⟨bytes, -, -, read⟩ := read_of_copyOf made
        have lookup := Workspace.copy?_concat scratch file.tempPath node
        refine .inr ⟨node, bytes, rfl, read, rfl, ?_, fun path other => ?_⟩
        · rw [lookup, found, Option.none_or, if_pos rfl]
        · rw [lookup, if_neg other, Option.or_none]

/-- Where nothing is copied, only the reading of the text can fail. -/
theorem ends_withText (present : file.needs.localCopy = true →
    ∃ node, workspace.copy? file.tempPath = some node) :
    checkout.Ends file workspace (checkout.withText workspace.disk file, workspace) := by
  cases text : checkout.withText workspace.disk file with
  | error failure =>
    obtain ⟨cause, rfl, -⟩ := exists_cause_of_withText text
    exact .failed cause
  | ok done =>
    refine .succeeded rfl (fun _ _ => rfl) (fun needs => ?_) text
    obtain ⟨node, stands⟩ := present needs
    exact ⟨node, stands, .inl stands⟩

/-- A failure cannot leave a new copy behind: the text of a file that has just been copied can be
read. -/
theorem ends_materialize (checkout : Checkout) (file : Candidate) (workspace : Workspace) :
    checkout.Ends file workspace (checkout.materialize file workspace) := by
  rw [materialize_eq]
  cases needs : file.needs.localCopy with
  | false => exact ends_withText (by simp [needs])
  | true =>
    cases copied : checkout.copy file workspace with
    | error cause => exact .failed cause
    | ok after =>
      rcases copy_cases copied with ⟨rfl, present⟩ | ⟨node, bytes, made, read, same, stands, others⟩
      · exact ends_withText fun _ => present
      · have text : ∃ done, checkout.withText workspace.disk file = .ok done := by
          cases text : checkout.withText workspace.disk file with
          | ok done => exact ⟨done, rfl⟩
          | error failure =>
            obtain ⟨cause, -, unread⟩ := exists_cause_of_withText text
            rw [read] at unread
            cases unread
        obtain ⟨done, text⟩ := text
        simp only [if_true, same, text]
        exact .succeeded same others (fun _ => ⟨node, stands, .inr made⟩) text

/-! ## Further attempts -/

/-- What the needs of a file ask for is there. -/
structure IsSettled (file : Candidate) (workspace : Workspace) : Prop where
  copied : file.needs.localCopy = true → ∃ node, workspace.copy? file.tempPath = some node
  read : file.needs.contents = true → ∃ text, file.contents = some text

/-- A file stays settled while the scratch directory stays the same. -/
theorem IsSettled.of_scratch_eq (settled : IsSettled file workspace)
    (same : later.scratch = workspace.scratch) : IsSettled file later where
  copied needs := by
    rw [Workspace.copy?, same]
    exact settled.copied needs
  read := settled.read

/-- A file that is done has all that it needs. -/
theorem Ends.isSettled (ends : checkout.Ends file workspace (.ok done, after)) :
    IsSettled done after := by
  cases ends with
  | succeeded disk others copied text =>
    have same := withText_eq_ok text
    constructor
    · intro needs
      rw [same] at needs ⊢
      obtain ⟨node, stands, -⟩ := copied needs
      exact ⟨node, stands⟩
    · intro needs
      rw [same] at needs
      exact exists_contents_of_withText text needs

/-- Nothing is left to be done for a file that is settled, so the disk is not even looked at. -/
theorem IsSettled.materialize_eq (settled : IsSettled file workspace) :
    checkout.materialize file workspace = (.ok file, workspace) := by
  have text (disk : Disk) : checkout.withText disk file = .ok file := by
    rw [withText_eq_ok_iff]
    cases needs : file.needs.contents with
    | false => simp
    | true =>
      obtain ⟨text, known⟩ := settled.read needs
      simp [known]
  rw [Checkout.materialize_eq]
  cases needs : file.needs.localCopy with
  | false => simp [text]
  | true =>
    obtain ⟨node, stands⟩ := settled.copied needs
    simp [copy_of_present stands, text]

/-- Attempts at a file one after the other, each after a change of the disk: what they come to, and
the workspace in the end. A failed attempt leaves the file as it is. -/
def attempts (checkout : Checkout) :
    Candidate → Workspace → List (Disk → Disk) → List (Except Failure Candidate) × Workspace
  | _, workspace, [] => ([], workspace)
  | file, workspace, change :: changes =>
    let (result, workspace) :=
      checkout.materialize file { workspace with disk := change workspace.disk }
    let (results, workspace) := attempts checkout (result.toOption.getD file) workspace changes
    (result :: results, workspace)

/-- The induction is on the changes: an attempt hands on the file and the copies as it found them,
and so the file is still settled for the next one. -/
theorem IsSettled.attempts_eq (settled : IsSettled file workspace)
    (changes : List (Disk → Disk)) :
    checkout.attempts file workspace changes =
      (changes.map fun _ => .ok file,
        ⟨changes.foldl (fun disk change => change disk) workspace.disk, workspace.scratch⟩) := by
  induction changes generalizing workspace with
  | nil => rfl
  | cons change changes ih =>
    have still : IsSettled file { workspace with disk := change workspace.disk } :=
      settled.of_scratch_eq rfl
    have rest := ih still
    simp only [attempts, still.materialize_eq, Except.toOption, Option.getD_some, rest,
      List.map_cons, List.foldl_cons]

/-- Materializing one file is materializing a list of just that one. -/
theorem materializeAll_singleton (checkout : Checkout) (file : Candidate) (workspace : Workspace) :
    checkout.source.materializeAll [file] workspace =
      match checkout.materialize file workspace with
      | (.error failure, after) => (([file], some failure), after)
      | (.ok done, after) => (([done], none), after) := by
  have step : checkout.source.materialize file workspace = checkout.materialize file workspace :=
    rfl
  rw [Source.materializeAll, step]
  cases checkout.materialize file workspace with
  | mk result after => cases result <;> rfl

/-- The first page, to be copied and to be read. -/
def wantedPage : Candidate :=
  { Candidate.ofPaths "/s/0-TODO".toList "a/TODO".toList with
    needs := { localCopy := true, contents := true } }

/-- The page with its text. -/
def readPage : Candidate := { wantedPage with contents := some "teh".toList }

/-- Where the page has been copied. -/
def wantedCopy : List (Text × Node) :=
  [("/s/0-TODO".toList, .file (Text.utf8 "teh".toList) false)]

end CheckoutLint.Checkout
