import CheckoutLint.Disk.Node
import CheckoutLint.SystemError

/-!
Finding files by path. A path is resolved step by step from a directory; links are followed on the
way, at most forty of them, and a name has at most 255 bytes, a path 4095.

Main statement:

* `Disk.resolve_nil`: no steps lead nowhere else.
-/

namespace CheckoutLint

/-- A tree of files from its root. -/
structure Disk where
  root : Node

/-- What is asked of the last step of a path. -/
inductive LastStep where
  /-- It must exist; a link there is followed. -/
  | follow
  /-- It must exist; a link there is meant itself. -/
  | keep
  /-- It may be missing; a link there is followed. -/
  | create
  deriving DecidableEq, Repr

namespace Disk

/-- The most links that a path may lead through. -/
def maxLinks : Nat := 40

/-- The most bytes of a name. -/
def maxName : Nat := 255

/-- The most bytes of a path. -/
def maxPath : Nat := 4095

/-- What stands at a place. -/
def at? (disk : Disk) (place : Place) : Option Node := disk.root.find? place

/-- The place that steps lead to from a directory, if no more links than given are on the way. -/
def resolve (disk : Disk) (last : LastStep) (links : Nat) (here : Place) (steps : List Bytes) :
    Except SystemError Place :=
  match steps with
  | [] => .ok here
  | name :: rest =>
    match disk.at? here with
    | none => .error .missing
    | some (.directory entries) =>
      if name = Path.self then resolve disk last links here rest
      else if name = Path.parent then resolve disk last links here.tail rest
      else if maxName < name.length then .error .nameTooLong
      else
        match entries.lookup name with
        | none => if rest = [] ∧ last = .create then .ok (name :: here) else .error .missing
        | some (.link target) =>
          if rest = [] ∧ last = .keep then .ok (name :: here)
          else
            match links with
            | 0 => .error .tooManyLinks
            | links + 1 =>
              resolve disk last links (if Path.isAbsolute target then [] else here)
                (Path.steps target ++ rest)
        | some _ => resolve disk last links (name :: here) rest
    | some _ => .error .notDirectory
termination_by (links, steps.length)

@[simp]
theorem resolve_nil (disk : Disk) (last : LastStep) (links : Nat) (here : Place) :
    disk.resolve last links here [] = .ok here := by
  rw [resolve]

/-- A path that holds a NUL, which no file name can. -/
def nulInPath : SystemError := .described "file name contained an unexpected NUL byte".toList

/-- The place that a path names, read from a working directory. -/
def locate (disk : Disk) (last : LastStep) (cwd : Place) (path : Bytes) :
    Except SystemError Place :=
  if path = [] then .error .missing
  else if path.contains 0 then .error nulInPath
  else if maxPath < path.length then .error .nameTooLong
  else disk.resolve last maxLinks (if Path.isAbsolute path then [] else cwd) (Path.steps path)

/-- What a path leads to, links followed. -/
def find (disk : Disk) (cwd : Place) (path : Bytes) : Except SystemError Node :=
  match disk.locate .follow cwd path with
  | .error cause => .error cause
  | .ok place =>
    match disk.at? place with
    | some node => .ok node
    | none => .error .missing

/-- Whether a path leads to something. -/
def isPresent (disk : Disk) (cwd : Place) (path : Bytes) : Bool := (disk.find cwd path).toBool

/-- The bytes that reading a path gives; those of a pipe are what is written to it. -/
def read (disk : Disk) (cwd : Place) (path : Bytes) : Except SystemError Bytes :=
  match disk.find cwd path with
  | .error cause => .error cause
  | .ok (.file bytes _) => .ok bytes
  | .ok (.directory _) => .error .isDirectory
  | .ok (.pipe written) => .ok written
  | .ok (.link _) => .ok []

/-- The bytes of a path that must lead to a regular file, and whether that can be executed. -/
def regular (disk : Disk) (cwd : Place) (path : Bytes) :
    Except SystemError (Bytes × Bool) :=
  match disk.find cwd path with
  | .error cause => .error cause
  | .ok (.file bytes executable) => .ok (bytes, executable)
  | .ok _ =>
    .error (.described
      "the source path is neither a regular file nor a symlink to a regular file".toList)

end Disk

end CheckoutLint
