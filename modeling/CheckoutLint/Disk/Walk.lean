import CheckoutLint.Disk.Resolve
import CheckoutLint.Failure

/-!
The files of a checkout: the regular files below its root, reached through directories alone. A
directory with a name to be left out is not entered; links and pipes are neither listed nor
followed. The root itself may be reached through links and may have any name. Reading a directory
can fail for reasons that lie outside the tree, and then the directory is passed over.

Main statement:

* `Disk.walk_eq_ok_iff`: a walk succeeds exactly on what leads to a directory.
-/

namespace CheckoutLint

/-- What the system shows to a walk, by path. A path is spelled from that of the root. -/
structure Sight where
  /-- Whether the directory at a path can be read. -/
  opens : Bytes → Bool
  /-- Whether the directory around a path, being read, tells what stands there. -/
  tells : Bytes → Bool

namespace Sight

/-- A system that shows everything, but reads no directory whose path is too long. -/
def full : Sight where
  opens path := path.length ≤ Disk.maxPath
  tells _ := true

/-- Where everything can be read, a directory is opened just if its path is short enough. -/
theorem opens_full_iff {path : Bytes} :
    full.opens path = true ↔ path.length ≤ Disk.maxPath :=
  decide_eq_true_iff

end Sight

namespace Node

/-- Whether the directory of this name is entered, which is at a path itself. A name is to be left
out if it is the UTF-8 form of one of some texts. -/
def isEntered (sight : Sight) (skip : List Text) (path name : Bytes) : Bool :=
  !(skip.map Text.utf8).contains name && sight.opens path

mutual

/-- The places of the files below a node, which is read by a path. -/
def files (sight : Sight) (skip : List Text) (path : Bytes) : Node → List Place
  | .directory entries => filesIn sight skip path entries
  | _ => []

/-- The places of the files among the entries of the directory at a path, and below them. -/
def filesIn (sight : Sight) (skip : List Text) (path : Bytes) : List (Bytes × Node) → List Place
  | [] => []
  | (name, node) :: entries =>
    (if sight.tells (Path.join path name) then filesAt sight skip (Path.join path name) name node
      else []) ++ filesIn sight skip path entries

/-- The place of the file of this name, or those of the files below the directory of this name, in
the directory around; the path is that of the file or directory itself. -/
def filesAt (sight : Sight) (skip : List Text) (path name : Bytes) : Node → List Place
  | .file _ _ => [[name]]
  | .directory entries =>
    if isEntered sight skip path name then
      (filesIn sight skip path entries).map fun place => place ++ [name]
    else []
  | _ => []

end

end Node

namespace Disk

/-- Puts texts in order, code point by code point, which is the order of their bytes. -/
def sorted (texts : List Text) : List Text := texts.mergeSort Text.isAtMost

/-- The places of the files of the checkout at a root, which is a directory with these entries. -/
def listed (sight : Sight) (root : Bytes) (skip : List Text) (entries : List (Bytes × Node)) :
    List Place :=
  if sight.opens root then Node.filesIn sight skip root entries else []

/-- The paths of the files of the checkout at a root, in order. -/
def walk (disk : Disk) (sight : Sight) (cwd : Place) (root : Bytes) (skip : List Text) :
    Except Failure (List Text) :=
  match disk.find cwd root with
  | .error cause => .error (.walk root cause)
  | .ok (.directory entries) => .ok (sorted ((listed sight root skip entries).map Place.shown))
  | .ok _ => .error (.walk root (.described "not a directory".toList))

/-- A walk succeeds just at a directory; its files are those that are listed there, shown and
sorted. -/
theorem walk_eq_ok_iff {disk : Disk} {sight : Sight} {cwd : Place} {root : Bytes} {skip : List Text}
    {files : List Text} :
    disk.walk sight cwd root skip = .ok files ↔
      ∃ entries, disk.find cwd root = .ok (.directory entries) ∧
        files = sorted ((listed sight root skip entries).map Place.shown) := by
  cases found : disk.find cwd root with
  | error cause => simp [walk, found]
  | ok node => cases node <;> simp [walk, found, eq_comm]

end Disk

end CheckoutLint
