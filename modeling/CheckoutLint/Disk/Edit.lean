import CheckoutLint.Disk.Resolve

/-!
Changes to a tree of files: making directories, files, links and pipes, and removing what is there.
Directories on the way are made as needed.
-/

namespace CheckoutLint.Disk

/-- Something stands where something new is to be made. -/
def occupied : SystemError := .numbered 17

/-- The disk with a node at a place. -/
def put (disk : Disk) (place : Place) (node : Node) : Disk := ⟨disk.root.put place.reverse node⟩

/-- Makes the directories that steps lead through, as far as they are missing; gives the place that
they lead to. A link that leads to nothing stands in the way. -/
def makeDirectories (disk : Disk) (here : Place) : List Bytes → Except SystemError (Disk × Place)
  | [] => .ok (disk, here)
  | name :: rest =>
    match disk.resolve .follow maxLinks here [name] with
    | .ok place =>
      match disk.at? place with
      | some (.directory _) => makeDirectories disk place rest
      | _ => .error .notDirectory
    | .error .missing =>
      match disk.resolve .create 0 here [name] with
      | .error _ => .error occupied
      | .ok place => makeDirectories (disk.put place (.directory [])) place rest
    | .error cause => .error cause

/-- Makes the directory around a path; gives its place and the last name of the path. -/
def makeParent (disk : Disk) (cwd : Place) (path : Bytes) :
    Except SystemError (Disk × Place × Bytes) :=
  let names := Path.names path
  match names.getLast? with
  | none => .error occupied
  | some name =>
    match disk.makeDirectories (if Path.isAbsolute path then [] else cwd) names.dropLast with
    | .error cause => .error cause
    | .ok (disk, place) => .ok (disk, place, name)

/-- Makes a directory. -/
def makeDirectory (disk : Disk) (cwd : Place) (path : Bytes) : Except SystemError Disk :=
  (disk.makeDirectories (if Path.isAbsolute path then [] else cwd) (Path.names path)).map (·.1)

/-- Writes a file. A link at the path is followed. -/
def write (disk : Disk) (cwd : Place) (path : Bytes) (bytes : Bytes) (executable : Bool) :
    Except SystemError Disk :=
  match disk.makeParent cwd path with
  | .error cause => .error cause
  | .ok (disk, place, name) =>
    match disk.resolve .create maxLinks place [name] with
    | .error cause => .error cause
    | .ok place =>
      match disk.at? place with
      | some (.directory _) => .error .isDirectory
      | _ => .ok (disk.put place (.file bytes executable))

/-- Makes a link or a pipe where nothing stands yet. -/
def make (disk : Disk) (cwd : Place) (path : Bytes) (node : Node) : Except SystemError Disk :=
  match disk.makeParent cwd path with
  | .error cause => .error cause
  | .ok (disk, place, name) =>
    match disk.at? (name :: place) with
    | some _ => .error occupied
    | none => .ok (disk.put (name :: place) node)

/-- Removes what stands at a path, a directory with all that it holds. A link is removed itself. -/
def remove (disk : Disk) (cwd : Place) (path : Bytes) : Except SystemError Disk :=
  (disk.locate .keep cwd path).map fun place => ⟨disk.root.erase place.reverse⟩

end CheckoutLint.Disk
