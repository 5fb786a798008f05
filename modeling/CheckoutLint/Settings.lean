import CheckoutLint.Checker
import CheckoutLint.Disk.Walk
import CheckoutLint.Text.Blank

/-!
Settings of a run: the root of the checkout, the programs of the tools, the directories to leave
out. Programs come from the environment; a blank value counts as none. Without a root given, it is
the nearest directory around the working directory that holds `.git`.

Main statement:

* `Settings.enclosing_eq_some`: the root found is a directory around the start, or the start, and it
  fulfils the condition.
-/

namespace CheckoutLint

/-- Names and values; the first value of a name counts. -/
abbrev Environment := List (Text × Text)

/-- What a run is told about the checkout and the tools. -/
structure Settings where
  /-- The path of the root, as it was given. -/
  root : Bytes
  program : Tool → Text
  skip : List Text

namespace Settings

/-! ## Environment -/

/-- The variable that names the program of a tool. -/
def programVariable : Tool → Text
  | .spelling => "REPO_LINT_MISSPELL".toList
  | .links => "REPO_LINT_LICHE".toList

/-- The variable that, set to anything, asks for timing. -/
def timingVariable : Text := "REPO_LINT_TIMING".toList

/-- The program of a tool if none is named. -/
def defaultProgram : Tool → Text
  | .spelling => "misspell".toList
  | .links => "liche".toList

/-- The program of a tool. -/
def programOf (environment : Environment) (tool : Tool) : Text :=
  match environment.lookup (programVariable tool) with
  | some value => if (Text.trim value).isEmpty then defaultProgram tool else value
  | none => defaultProgram tool

/-- Whether timing is asked for. -/
def timing (environment : Environment) : Bool := (environment.lookup timingVariable).isSome

/-! ## Directories -/

/-- Directories that are never looked into. -/
def standardSkips : List Text :=
  [".git".toList, ".hg".toList, ".svn".toList, "node_modules".toList, "target".toList,
    "vendor".toList]

/-- The standard names and more, in order and each once. -/
def skips (extra : List Text) : List Text := Disk.sorted (standardSkips ++ extra).eraseDups

/-- The settings for a root. -/
def ofRoot (environment : Environment) (root : Bytes) : Settings :=
  ⟨root, programOf environment, skips []⟩

/-- The checkers of a run, in report order. -/
def checkers (settings : Settings) : List Checker := Checker.all settings.program

/-! ## Discovery -/

/-- The innermost of a place and the places around it that fulfils a condition. -/
def enclosing (holds : Place → Bool) : Place → Option Place
  | [] => if holds [] then some [] else none
  | name :: around =>
    if holds (name :: around) then some (name :: around) else enclosing holds around

/-- What is found is a place around that fulfils the condition. -/
theorem enclosing_eq_some {holds : Place → Bool} {place found : Place}
    (h : enclosing holds place = some found) : holds found = true ∧ found <:+ place := by
  induction place with
  | nil =>
    rw [enclosing] at h
    split at h
    · obtain rfl := Option.some.inj h
      exact ⟨by assumption, List.suffix_rfl⟩
    · simp at h
  | cons name around ih =>
    rw [enclosing] at h
    split at h
    · obtain rfl := Option.some.inj h
      exact ⟨by assumption, List.suffix_rfl⟩
    · exact ⟨(ih h).1, (ih h).2.trans (List.suffix_cons _ _)⟩

/-- The name of the entry that marks the root of a checkout. -/
def gitName : Bytes := Text.utf8 ".git".toList

/-- Whether a place is the root of a checkout: it holds `.git`, be it a directory, a file, or a link
to something that exists. It is looked for by its path, and not found if that is too long. -/
def isRoot (disk : Disk) (place : Place) : Bool := disk.isPresent [] (Path.join place.path gitName)

/-- The settings for the checkout around a working directory. -/
def discover (disk : Disk) (environment : Environment) (cwd : Place) : Option Settings :=
  (enclosing (isRoot disk) cwd).map fun place => ofRoot environment place.path

end Settings

end CheckoutLint
