import CheckoutLint.Checkout
import CheckoutLint.Proofs.Pass.Selection

/-!
The scratch directory in the course of a run. Temp paths are numbered, so that no two files share
one, and nothing ever stands at a temp path but a faithful copy of its file: this is kept by every
attempt to materialize a file, the failing ones included. What such an attempt comes to can then be
said without the scratch directory.

* `number_eq_of_tempPath_eq`, `ne_tempPath_of_mem_options`: temp paths tell files apart, and are no
  options of a tool.
* `Faithful.copy_of_error`, `Faithful.copy_of_ok`: copying a file.
* `Faithful.materialize`: materializing a file comes to `ready`, whatever has been copied before.
-/

namespace CheckoutLint

/-! ## Temp paths -/

theorem slash_not_mem_baseName (path : Text) : '/' ∉ baseName path := by
  intro mem
  have := List.all_eq_true.1 List.all_takeWhile _ (List.mem_reverse.1 mem)
  simp at this

theorem Text.ofNat_inj {m n : Nat} (h : ofNat m = ofNat n) : m = n := by
  rw [← Nat.ofDigitChars_ten_toDigits (n := m), ← Nat.ofDigitChars_ten_toDigits (n := n)]
  exact congrArg (Nat.ofDigitChars 10 · 0) h

theorem Text.isDigit_of_mem_ofNat {n : Nat} {c : Char} (mem : c ∈ ofNat n) : c.isDigit = true :=
  Nat.isDigit_of_mem_toDigits (by decide) (by decide) mem

theorem Text.takeWhile_ofNat_append_cons (n : Nat) {c : Char} (other : c.isDigit = false)
    (rest : Text) : (ofNat n ++ c :: rest).takeWhile Char.isDigit = ofNat n := by
  rw [List.takeWhile_append_of_pos fun c mem => isDigit_of_mem_ofNat mem]
  simp [other]

theorem Text.takeWhile_ofNat_append (n : Nat) (rest : Text) :
    (ofNat n ++ '-' :: rest).takeWhile Char.isDigit = ofNat n :=
  takeWhile_ofNat_append_cons n rfl rest

/-- The last name of a path is the one that was put there. -/
theorem Path.baseName_join (directory : Text) {name : Text} (h : '/' ∉ name) :
    baseName (Path.join directory name) = name := by
  have relative := isAbsolute_of_slashless h
  cases last : directory.getLast? with
  | none => simpa [Path.join, relative, last] using baseName_eq_self h
  | some c =>
    by_cases slash : c = '/'
    · subst slash
      obtain ⟨front, rfl⟩ := List.getLast?_eq_some_iff.1 last
      simpa [Path.join, relative] using baseName_append_slash front h
    · rw [Path.join_eq_slash relative last slash]
      exact baseName_append_slash directory h

namespace Checkout

theorem slash_not_mem_numbered (number : Nat) (path : Text) :
    '/' ∉ Text.ofNat number ++ '-' :: baseName path := by
  intro mem
  rcases List.mem_append.1 mem with digit | rest
  · exact absurd (Text.isDigit_of_mem_ofNat digit) (by decide)
  · rcases List.mem_cons.1 rest with dash | base
    · exact absurd dash (by decide)
    · exact slash_not_mem_baseName path base

theorem baseName_tempPath (checkout : Checkout) (number : Nat) (path : Text) :
    baseName (checkout.tempPath number path) = Text.ofNat number ++ '-' :: baseName path :=
  Path.baseName_join _ (slash_not_mem_numbered number path)

/-- Two files with one temp path have one number. -/
theorem number_eq_of_tempPath_eq {checkout : Checkout} {first second : Nat} {path other : Text}
    (h : checkout.tempPath first path = checkout.tempPath second other) : first = second := by
  have names := congrArg (fun name => (baseName name).takeWhile Char.isDigit) h
  simp only [baseName_tempPath, Text.takeWhile_ofNat_append] at names
  exact Text.ofNat_inj names

/-- No option of a tool is a temp path: its base name is no number with a dash behind it. -/
theorem ne_tempPath_of_mem_options {tool : Tool} {option : Text} (mem : option ∈ tool.options)
    (checkout : Checkout) (number : Nat) (path : Text) :
    option ≠ checkout.tempPath number path := by
  have options : ∀ option ∈ tool.options, (baseName option).takeWhile Char.isDigit = [] ∨
      (baseName option).takeWhile Char.isDigit = baseName option := by
    cases tool <;> decide
  rintro rfl
  have name := options _ mem
  rw [baseName_tempPath, Text.takeWhile_ofNat_append] at name
  rcases name with empty | whole
  · exact Nat.toDigits_ne_nil empty
  · exact absurd (congrArg List.length whole) (by simp)

/-! ## Files and their copies -/

/-- A candidate for a file of the checkout. -/
def Owns (checkout : Checkout) (file : Candidate) : Prop :=
  ∃ number : Nat, checkout.files[number]? = some file.path ∧
    file.tempPath = checkout.tempPath number file.path

theorem owns_of_mem_candidates {checkout : Checkout} {file : Candidate}
    (mem : file ∈ checkout.candidates) : checkout.Owns file := by
  obtain ⟨⟨path, number⟩, found, rfl⟩ := List.mem_map.1 mem
  exact ⟨number, List.mem_zipIdx_iff_getElem?.1 found, rfl⟩

theorem owns_of_mem_selection {checkout : Checkout} {checker : Checker} {file : Candidate}
    (mem : file ∈ checker.selection checkout.candidates) : checkout.Owns file := by
  obtain ⟨candidate, found, rfl⟩ := List.mem_map.1 mem
  have owned := owns_of_mem_candidates (List.mem_filter.1 found).1
  exact owned

theorem Owns.path_mem {checkout : Checkout} {file : Candidate} (owned : checkout.Owns file) :
    file.path ∈ checkout.files := by
  obtain ⟨number, found, -⟩ := owned
  exact List.mem_of_getElem? found

/-- Files with one temp path have one path. -/
theorem Owns.path_eq {checkout : Checkout} {file other : Candidate} (first : checkout.Owns file)
    (second : checkout.Owns other) (h : file.tempPath = other.tempPath) :
    file.path = other.path := by
  obtain ⟨number, found, place⟩ := first
  obtain ⟨index, listed, stands⟩ := second
  rw [place, stands] at h
  obtain rfl := number_eq_of_tempPath_eq h
  exact Option.some.inj (found.symm.trans listed)

/-- What a copy of a file is, if one can be made. -/
def copyOf (checkout : Checkout) (disk : Disk) (file : Candidate) : Except SystemError Node :=
  match disk.regular checkout.cwd (checkout.sourcePath file.path) with
  | .error cause => .error cause
  | .ok (bytes, executable) =>
    if Disk.maxName < Text.byteLength (baseName file.tempPath) ∨
        Disk.maxPath < Text.byteLength file.tempPath then .error .nameTooLong
    else .ok (.file bytes executable)

/-- A file with its text, if it needs one and has none yet. -/
def withText (checkout : Checkout) (disk : Disk) (file : Candidate) : Except Failure Candidate :=
  if file.needs.contents && file.contents.isNone then
    match disk.read checkout.cwd (checkout.sourcePath file.path) with
    | .error cause => .error (.materialize (checkout.sourcePath file.path) cause)
    | .ok bytes => .ok { file with contents := some (Text.decodeLossy bytes) }
  else .ok file

/-- What materializing a file comes to: its copy may fail to be made, or its text to be read. -/
def ready (checkout : Checkout) (disk : Disk) (file : Candidate) : Except Failure Candidate :=
  if file.needs.localCopy then
    match checkout.copyOf disk file with
    | .error cause => .error (.materialize (checkout.sourcePath file.path) cause)
    | .ok _ => checkout.withText disk file
  else checkout.withText disk file

theorem copy_of_present {checkout : Checkout} {file : Candidate} {workspace : Workspace}
    {node : Node} (present : workspace.copy? file.tempPath = some node) :
    checkout.copy file workspace = .ok workspace := by
  simp only [copy, present]

/-- A copy that is not there is made of what the disk holds, behind the others. -/
theorem copy_of_absent {checkout : Checkout} {file : Candidate} {workspace : Workspace}
    {entries : List (Text × Node)} (absent : workspace.copy? file.tempPath = none)
    (scratch : workspace.scratch = some entries) :
    checkout.copy file workspace =
      (checkout.copyOf workspace.disk file).map fun node =>
        { workspace with scratch := some (entries ++ [(file.tempPath, node)]) } := by
  simp only [copy, absent, scratch, copyOf]
  cases workspace.disk.regular checkout.cwd (checkout.sourcePath file.path) with
  | error cause => rfl
  | ok regular =>
    dsimp only
    split <;> rfl

/-- Materializing: the copy first, then the text. -/
theorem materialize_eq (checkout : Checkout) (file : Candidate) (workspace : Workspace) :
    checkout.materialize file workspace =
      match if file.needs.localCopy then checkout.copy file workspace else .ok workspace with
      | .error cause => (.error (.materialize (checkout.sourcePath file.path) cause), workspace)
      | .ok after => (checkout.withText after.disk file, after) := by
  rw [materialize]
  generalize (if file.needs.localCopy then checkout.copy file workspace else .ok workspace) = copied
  cases copied with
  | error cause => rfl
  | ok after =>
    dsimp only [withText]
    cases file.needs.contents && file.contents.isNone with
    | false => rfl
    | true => cases after.disk.read checkout.cwd (checkout.sourcePath file.path) <;> rfl

end Checkout

/-! ## What a run keeps true -/

/-- An entry that goes to the end of the scratch directory hides none of those before it. -/
theorem Workspace.copy?_concat {workspace : Workspace} {entries : List (Text × Node)}
    (scratch : workspace.scratch = some entries) (place : Text) (node : Node) (path : Text) :
    ({ workspace with scratch := some (entries ++ [(place, node)]) } : Workspace).copy? path =
      (workspace.copy? path).or (if path = place then some node else none) := by
  by_cases same : path = place
  · simp [copy?, scratch, List.lookup_append, same]
  · simp [copy?, scratch, List.lookup_append, List.lookup_cons, beq_eq_false_iff_ne.2 same, same]

/-- Whatever stands in one scratch directory stands in another one too. -/
def Workspace.IsWithin (workspace after : Workspace) : Prop :=
  ∀ path node, workspace.copy? path = some node → after.copy? path = some node

theorem Workspace.IsWithin.refl (workspace : Workspace) : workspace.IsWithin workspace :=
  fun _ _ found => found

theorem Workspace.IsWithin.trans {first second third : Workspace} (h : first.IsWithin second)
    (h' : second.IsWithin third) : first.IsWithin third :=
  fun path node found => h' path node (h path node found)

namespace Checkout

/-- The paths on disk that matter to a run: the files of the checkout, and whatever the options of a
tool would name. -/
def Uses (checkout : Checkout) (path : Bytes) : Prop :=
  (∃ file ∈ checkout.files, path = checkout.sourcePath file) ∨
    ∃ tool : Tool, ∃ option ∈ tool.options, path = Text.utf8 option

/-- A workspace in the course of a run over a disk: what matters of the disk is as it was, and the
scratch directory holds nothing but copies of files at their temp paths. -/
structure Faithful (checkout : Checkout) (disk : Disk) (workspace : Workspace) : Prop where
  used : ∀ path, checkout.Uses path →
    workspace.disk.find checkout.cwd path = disk.find checkout.cwd path
  present : ∃ entries, workspace.scratch = some entries
  copies : ∀ path node, workspace.copy? path = some node →
    ∃ file, checkout.Owns file ∧ file.tempPath = path ∧ checkout.copyOf disk file = .ok node

theorem faithful_fresh (checkout : Checkout) (disk : Disk) :
    checkout.Faithful disk { disk } where
  used _ _ := rfl
  present := ⟨[], rfl⟩
  copies path node found := by simp [Workspace.copy?] at found

variable {checkout : Checkout} {disk : Disk} {workspace : Workspace} {file : Candidate}

theorem Faithful.find_eq (faithful : checkout.Faithful disk workspace)
    (owned : checkout.Owns file) :
    workspace.disk.find checkout.cwd (checkout.sourcePath file.path) =
      disk.find checkout.cwd (checkout.sourcePath file.path) :=
  faithful.used _ (.inl ⟨file.path, owned.path_mem, rfl⟩)

/-- The files of a checkout are copied as on the first disk. -/
theorem Faithful.copyOf_eq (faithful : checkout.Faithful disk workspace)
    (owned : checkout.Owns file) :
    checkout.copyOf workspace.disk file = checkout.copyOf disk file := by
  simp only [copyOf, Disk.regular, faithful.find_eq owned]

theorem Faithful.withText_eq (faithful : checkout.Faithful disk workspace)
    (owned : checkout.Owns file) :
    checkout.withText workspace.disk file = checkout.withText disk file := by
  simp only [withText, Disk.read, faithful.find_eq owned]

/-- What stands at the temp path of a file is a copy of this file and of no other. -/
theorem Faithful.copyOf_of_present (faithful : checkout.Faithful disk workspace)
    (owned : checkout.Owns file) {node : Node}
    (present : workspace.copy? file.tempPath = some node) :
    checkout.copyOf disk file = .ok node := by
  obtain ⟨other, others, same, copied⟩ := faithful.copies _ node present
  rw [← copied, copyOf, copyOf, same, others.path_eq owned same]

/-- A file that cannot be copied at first cannot be copied later. -/
theorem Faithful.copy_of_error (faithful : checkout.Faithful disk workspace)
    (owned : checkout.Owns file) {cause : SystemError}
    (h : checkout.copyOf disk file = .error cause) :
    checkout.copy file workspace = .error cause := by
  obtain ⟨entries, scratch⟩ := faithful.present
  cases found : workspace.copy? file.tempPath with
  | some node =>
    have := faithful.copyOf_of_present owned found
    simp [h] at this
  | none => rw [copy_of_absent found scratch, faithful.copyOf_eq owned, h, Except.map]

/-- A file that can be copied at first can be copied later, to the same copy. -/
theorem Faithful.copy_of_ok (faithful : checkout.Faithful disk workspace)
    (owned : checkout.Owns file) {node : Node} (h : checkout.copyOf disk file = .ok node) :
    ∃ after, checkout.copy file workspace = .ok after ∧ checkout.Faithful disk after ∧
      workspace.IsWithin after ∧ after.copy? file.tempPath = some node := by
  obtain ⟨entries, scratch⟩ := faithful.present
  cases found : workspace.copy? file.tempPath with
  | some copied =>
    have same := h.symm.trans (faithful.copyOf_of_present owned found)
    obtain rfl := Except.ok.inj same
    exact ⟨workspace, copy_of_present found, faithful, .refl workspace, found⟩
  | none =>
    have lookup := Workspace.copy?_concat scratch file.tempPath node
    refine ⟨{ workspace with scratch := some (entries ++ [(file.tempPath, node)]) }, ?_,
      ⟨faithful.used, ⟨_, rfl⟩, ?_⟩, ?_, ?_⟩
    · rw [copy_of_absent found scratch, faithful.copyOf_eq owned, h, Except.map]
    · intro path other stands
      rw [lookup, Option.or_eq_some_iff, Option.ite_none_right_eq_some, Option.some.injEq] at stands
      rcases stands with old | ⟨-, rfl, rfl⟩
      · exact faithful.copies path other old
      · exact ⟨file, owned, rfl, h⟩
    · intro path other stands
      rw [lookup, stands, Option.some_or]
    · rw [lookup, found, Option.none_or, if_pos rfl]

/-- A copy of the file stands at its temp path. -/
def Copied (checkout : Checkout) (disk : Disk) (workspace : Workspace) (file : Candidate) : Prop :=
  ∃ node, checkout.copyOf disk file = .ok node ∧ workspace.copy? file.tempPath = some node

theorem Copied.within {after : Workspace} (copied : checkout.Copied disk workspace file)
    (within : workspace.IsWithin after) : checkout.Copied disk after file := by
  obtain ⟨node, made, stands⟩ := copied
  exact ⟨node, made, within _ node stands⟩

theorem withText_eq_ok {done : Candidate} (h : checkout.withText disk file = .ok done) :
    done = { file with contents := done.contents } := by
  rw [withText] at h
  split at h
  · split at h
    · cases h
    · obtain rfl := Except.ok.inj h
      rfl
  · obtain rfl := Except.ok.inj h
    rfl

theorem ready_of_copied {node : Node} (h : checkout.copyOf disk file = .ok node) :
    checkout.ready disk file = checkout.withText disk file := by
  simp [ready, h]

/-- Materializing a file comes to the same in every workspace of a run, and keeps what a run keeps
true, whether it succeeds or not. -/
theorem Faithful.materialize (faithful : checkout.Faithful disk workspace)
    (owned : checkout.Owns file) :
    ∃ after, checkout.materialize file workspace = (checkout.ready disk file, after) ∧
      checkout.Faithful disk after ∧ workspace.IsWithin after ∧
        ∀ done, checkout.ready disk file = .ok done → file.needs.localCopy = true →
          checkout.Copied disk after done := by
  rw [materialize_eq]
  cases needs : file.needs.localCopy with
  | false =>
    refine ⟨workspace, ?_, faithful, .refl workspace, by simp⟩
    simp [ready, needs, faithful.withText_eq owned]
  | true =>
    cases made : checkout.copyOf disk file with
    | error cause =>
      have failed := faithful.copy_of_error owned made
      refine ⟨workspace, ?_, faithful, .refl workspace, ?_⟩
      · simp [failed, ready, needs, made]
      · simp [ready, needs, made]
    | ok node =>
      obtain ⟨after, copied, kept, within, stands⟩ := faithful.copy_of_ok owned made
      refine ⟨after, ?_, kept, within, ?_⟩
      · simp [copied, ready_of_copied made, kept.withText_eq owned]
      · intro done eq _
        rw [ready_of_copied made] at eq
        rw [withText_eq_ok eq]
        exact ⟨node, made, stands⟩

end Checkout

end CheckoutLint
