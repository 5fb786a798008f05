import CheckoutLint.Text.Basic

/-!
Files that editors and operating systems leave behind, told by their names. A name with a line feed
in it is no leftover.

Main statement:

* `Leftover.mem_all`: the table lists every kind.
-/

namespace CheckoutLint

/-- The kinds of leftovers, in the order in which they are reported. -/
inductive Leftover where
  | vimSwap
  | emacsAutosave
  | emacsBackup
  | emacsLock
  | macSystem
  | windowsSystem
  deriving DecidableEq, Repr

namespace Leftover

/-- Every kind, in report order. -/
def all : List Leftover :=
  [.vimSwap, .emacsAutosave, .emacsBackup, .emacsLock, .macSystem, .windowsSystem]

theorem mem_all (kind : Leftover) : kind ∈ all := by
  cases kind <;> simp [all]

/-- What a kind is called. -/
def label : Leftover → Text
  | .vimSwap => "Vim swap".toList
  | .emacsAutosave => "Emacs autosave".toList
  | .emacsBackup => "Emacs backup".toList
  | .emacsLock => "Emacs lock file".toList
  | .macSystem => "Mac OS sys file".toList
  | .windowsSystem => "Windows sys file".toList

/-- Whether a name without a line feed is of this kind. -/
def coversName : Leftover → Text → Bool
  | .vimSwap, name => ".swp".toList.isSuffixOf name
  | .emacsAutosave, name =>
    2 ≤ name.length && ['#'].isPrefixOf name && ['#'].isSuffixOf name
  | .emacsBackup, name => ['~'].isSuffixOf name
  | .emacsLock, name => ".#".toList.isPrefixOf name
  | .macSystem, name => name == ".DS_STORE".toList
  | .windowsSystem, name => name == "Thumbs.db".toList

/-- Whether a file with this base name is a leftover of this kind. -/
def covers (kind : Leftover) (name : Text) : Bool := !name.contains '\n' && kind.coversName name

/-- What is said of a leftover. -/
def warning (path : Text) (kind : Leftover) : Text :=
  "remove ".toList ++ kind.label ++ " file: ".toList ++ path

/-- The warnings for one file, in table order. -/
def warnings (path name : Text) : List Text :=
  (all.filter fun kind => kind.covers name).map (warning path)

end Leftover

end CheckoutLint
