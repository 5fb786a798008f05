import CheckoutLint.Host.Channel

/-!
Files by path: opening, making, removing and renaming. Paths are octet texts, read from a working
directory. Some paths stand for devices, and some for the streams of the process that opens them.
-/

namespace CheckoutLint.Host

/-! ## Looking -/

/-- The place that a path names. -/
def locate (host : Host) (last : LastStep) (cwd : Place) (path : Text) :
    Except SystemError Place :=
  host.disk.locate last cwd (Text.toBytes path)

/-- What a path names; a link at its end is followed if so wanted. -/
def find (host : Host) (follow : Bool) (cwd : Place) (path : Text) :
    Except SystemError (Place × Node) :=
  match host.locate (if follow then .follow else .keep) cwd path with
  | .error cause => .error cause
  | .ok place =>
    match host.disk.at? place with
    | some node => .ok (place, node)
    | none => .error .missing

/-- Whether a path leads to a directory. -/
def isDirectory (host : Host) (cwd : Place) (path : Text) : Bool :=
  match host.find true cwd path with
  | .ok (_, node) => node.isDirectory
  | .error _ => false

/-- The names in a directory, in order. -/
def names (host : Host) (cwd : Place) (path : Text) : Except SystemError (List Text) :=
  match host.find true cwd path with
  | .ok (_, .directory entries) =>
    .ok ((entries.map fun entry => Text.ofBytes entry.1).mergeSort Text.isAtMost)
  | .ok _ => .error .notDirectory
  | .error cause => .error cause

/-! ## Devices -/

/-- What is open when the device at a place is opened. -/
def device? (place : Place) : Option OpenFile :=
  match place with
  | [name, directory] =>
    if Text.ofBytes directory != "dev".toList then none
    else
      match String.ofList (Text.ofBytes name) with
      | "null" => some .nothing
      | "zero" => some .zeros
      | "full" => some .full
      | _ => none
  | _ => none

/-- The stream that a path stands for. -/
def streamOfPath? (path : Text) : Option Nat :=
  if path = "/dev/stdin".toList then some 0
  else if path = "/dev/stdout".toList then some 1
  else if path = "/dev/stderr".toList then some 2
  else
    match (Text.dropStart? "/dev/fd/".toList path).or
      (Text.dropStart? "/proc/self/fd/".toList path) with
    | some number => (String.ofList number).toNat?
    | none => none

/-! ## Opening -/

/-- How a file is opened. -/
structure Access where
  canRead : Bool := false
  canWrite : Bool := false
  /-- A file that is missing is made. -/
  create : Bool := false
  /-- The file is emptied. -/
  empty : Bool := false
  /-- Everything is written at the end. -/
  atEnd : Bool := false

/-- Opens what stands at a place. -/
def openAt (host : Host) (access : Access) (place : Place) :
    Except SystemError OpenFile × Host :=
  match host.disk.at? place with
  | some (.directory _) =>
    if access.canWrite then (.error .isDirectory, host) else (.ok (.directory place), host)
  | some (.file bytes executable) =>
    let file : OpenFile :=
      .regular place access.canRead access.canWrite access.atEnd 0 none
    if access.empty && !bytes.isEmpty then
      (.ok file, { host with
        disk := host.disk.put place (.file [] executable), time := host.time + 1 })
    else (.ok file, host)
  | some (.pipe written) =>
    let pipe : OpenFile :=
      if access.canRead then .supply (Text.ofBytes written) false else .nothing
    (.ok ((device? place).getD pipe), host)
  | some (.link _) => (.ok .nothing, host)
  | none =>
    if access.create then
      (.ok (.regular place access.canRead access.canWrite access.atEnd 0 none),
        { host with disk := host.disk.put place (.file [] false), time := host.time + 1 })
    else (.error .missing, host)

/-- Opens a path. -/
def openPath (host : Host) (cwd : Place) (path : Text) (access : Access) :
    Except SystemError OpenFile × Host :=
  if access.create && path.getLast? = some '/' then (.error .isDirectory, host)
  else
    match host.locate (if access.create then .create else .follow) cwd path with
    | .error cause => (.error cause, host)
    | .ok place => host.openAt access place

/-- Opens a path for a process with streams; gives the number of the open file. -/
def openFor (host : Host) (streams : Streams) (cwd : Place) (path : Text) (access : Access) :
    Except SystemError Nat × Host :=
  match streamOfPath? path with
  | some stream =>
    match streams.lookup stream with
    | some number => (.ok number, host)
    | none => (.error .missing, host)
  | none =>
    match host.openPath cwd path access with
    | (.error cause, host) => (.error cause, host)
    | (.ok file, host) =>
      let (number, host) := host.add file
      (.ok number, host)

/-- All that a path holds. -/
def readPath (host : Host) (streams : Streams) (cwd : Place) (path : Text) :
    Except SystemError Text × Host :=
  match host.openFor streams cwd path { canRead := true } with
  | (.error cause, host) => (.error cause, host)
  | (.ok number, host) => host.readAll number

/-! ## Changing -/

/-- A path without the slashes at its end. -/
def withoutSlashes (path : Text) : Text :=
  match (path.reverse.dropWhile (· = '/')).reverse with
  | [] => path.take 1
  | short => short

/-- The host with a node at a place. -/
def put (host : Host) (place : Place) (node : Node) : Host :=
  { host with disk := host.disk.put place node, time := host.time + 1 }

/-- The host without what stands at a place. -/
def erase (host : Host) (place : Place) : Host :=
  { host with disk := ⟨host.disk.root.erase place.reverse⟩, time := host.time + 1 }

/-- Makes something new at a path. -/
def make (host : Host) (cwd : Place) (path : Text) (node : Node) : Option SystemError × Host :=
  match host.locate .keep cwd path with
  | .ok _ => (some .present, host)
  | .error .missing =>
    match host.locate .create cwd path with
    | .error cause => (some cause, host)
    | .ok place => (none, host.put place node)
  | .error cause => (some cause, host)

/-- Makes a directory. -/
def makeDirectory (host : Host) (cwd : Place) (path : Text) : Option SystemError × Host :=
  host.make cwd (withoutSlashes path) (.directory [])

/-- Why what stands at one place cannot be moved to another, if so. -/
def cannotMove? (host : Host) (source target : Place) (node : Node) : Option SystemError :=
  if source <:+ target ∧ source ≠ target then some .invalid
  else
    match node, host.disk.at? target with
    | .directory _, some (.directory (_ :: _)) => some .notEmpty
    | .directory _, some (.directory []) | _, none => none
    | .directory _, some _ => some .notDirectory
    | _, some (.directory _) => some .isDirectory
    | _, some _ => none

/-- Gives what a path names another path, in place of what stands there. -/
def rename (host : Host) (cwd : Place) (source target : Text) : Option SystemError × Host :=
  match host.find false cwd (withoutSlashes source) with
  | .error cause => (some cause, host)
  | .ok (place, node) =>
    let goal :=
      match host.locate .keep cwd (withoutSlashes target) with
      | .error .missing => host.locate .create cwd (withoutSlashes target)
      | found => found
    match goal with
    | .error cause => (some cause, host)
    | .ok goal =>
      if goal = place then (none, host)
      else
        match host.cannotMove? place goal node with
        | some cause => (some cause, host)
        | none => (none, (host.erase place).put goal node)

end CheckoutLint.Host
