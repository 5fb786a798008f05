import CheckoutLint.Utility.Files

/-!
Utilities that copy and move files, and that make links to them. The last operand is the target; if
it is a directory, sources keep their names inside it.
-/

namespace CheckoutLint.Utility.Transfer

open Files (find warnAt)

/-! ## Targets -/

/-- A path inside a directory, with the last name of a path. -/
def insideOf (directory source : Text) : Text :=
  Path.join directory (((Path.names source).getLast?).getD ['.'])

/-- The sources with their targets. -/
def pairsOf (operands : List Text) : Work (List (Text × Text)) := do
  match operands.getLast?, operands.dropLast with
  | none, _ => misuse 1 "missing file operand".toList
  | some target, [] =>
    misuse 1 ("missing destination file operand after ".toList ++ Shown.always target)
  | some target, sources =>
    match ← find true target, sources with
    | .ok (_, .directory _), _ => return sources.map fun source => (source, insideOf target source)
    | _, [source] => return [(source, target)]
    | .ok _, _ =>
      fail 1 ("target ".toList ++ Shown.always target ++ ": ".toList ++
        SystemError.notDirectory.reason)
    | .error cause, _ =>
      fail 1 ("target ".toList ++ Shown.always target ++ ": ".toList ++ cause.reason)

/-- Whether a place is another one or lies below it. -/
def isBelow (place other : Place) : Bool := other.isSuffixOf place

/-- Says that two paths name the same file. -/
def warnSame (source target : Text) : Work Unit := do
  warn (Shown.always source ++ " and ".toList ++ Shown.always target ++
    " are the same file".toList)
  mark 1

/-- Says that something of one kind cannot take the place of something of the other kind. -/
def warnKinds (source target : Text) (ontoDirectory : Bool) : Work Unit := do
  warn (
    if ontoDirectory then
      "cannot overwrite directory ".toList ++ Shown.always target ++ " with non-directory".toList
    else
      "cannot overwrite non-directory ".toList ++ Shown.always target ++
        " with directory ".toList ++ Shown.always source)
  mark 1

/-! ## Copying -/

/-- Copies a file that is no directory to a path. -/
def copyFile (source target : Text) (place : Place) (node : Node) : Work Unit := do
  let cwd := (← get).call.cwd
  match ← find true target, node with
  | .ok (other, .file _ executable), .file bytes _ =>
    if other = place then warnSame source target
    else onHost fun host => ((), host.put other (.file bytes executable))
  | .ok (other, there), _ =>
    if other = place then warnSame source target
    else if there.isDirectory then warnKinds source target true
    else onHost fun host => ((), host.put other node)
  | .error .missing, _ =>
    match (← get).host.locate .create cwd target with
    | .ok goal => onHost fun host => ((), host.put goal node)
    | .error cause => warnAt "cannot create regular file" target cause
  | .error cause, _ => warnAt "cannot stat" target cause

/-- Copies what a path names, directories if so wanted. Goes at most `fuel` directories deep. -/
def copy (recursive : Bool) (fuel : Nat) (source target : Text) : Work Unit :=
  match fuel with
  | 0 => return
  | fuel + 1 => do
    let cwd := (← get).call.cwd
    match ← find (!recursive) source with
    | .error cause => warnAt "cannot stat" source cause
    | .ok (place, .directory entries) =>
      if !recursive then
        warn ("-r not specified; omitting directory ".toList ++ Shown.always source)
        mark 1
      else
        match (← get).host.locate .create cwd (Host.withoutSlashes target), ← find true target with
        | _, .ok (_, .file _ _) => warnKinds source target false
        | .error cause, _ => warnAt "cannot create directory" target cause
        | .ok goal, there =>
          if isBelow goal place then
            warn ("cannot copy a directory, ".toList ++ Shown.always source ++
              ", into itself, ".toList ++ Shown.always target)
            mark 1
          else
            if there matches .error _ then onHost fun host => ((), host.put goal (.directory []))
            for (name, _) in entries do
              let name := Text.ofBytes name
              copy recursive fuel (Path.join source name) (Path.join target name)
    | .ok (place, node) => copyFile source target place node

/-- How deep directories are copied. -/
def maxDepth : Nat := 1000

/-- Copies files. -/
def cp : Work Unit := do
  let manner : Options.Manner := { flags := "frR" }
  let taken ← manner.ofCall
  for (source, target) in ← pairsOf taken.operands do
    copy (taken.has 'r' || taken.has 'R') maxDepth source target

/-! ## Moving -/

/-- Moves what a path names. -/
def move (source target : Text) : Work Unit := do
  let cannot (cause : SystemError) : Work Unit := do
    warn ("cannot move ".toList ++ Shown.always source ++ " to ".toList ++
      Shown.always target ++ ": ".toList ++ cause.reason)
    mark 1
  match ← find false source with
  | .error cause => warnAt "cannot stat" source cause
  | .ok (place, node) =>
    let short := Host.withoutSlashes target
    let cwd := (← get).call.cwd
    match (← get).host.locate .create cwd short, ← find false short with
    | .error cause, _ => cannot cause
    | .ok goal, there =>
      let there := there.toOption.map (·.2)
      if there.isSome && goal = place then warnSame source target
      else if !node.isDirectory && there.any Node.isDirectory then warnKinds source target true
      else if node.isDirectory && there.any (!·.isDirectory) then warnKinds source target false
      else if isBelow goal place then
        warn ("cannot move ".toList ++ Shown.always source ++
          " to a subdirectory of itself, ".toList ++ Shown.always target)
        mark 1
      else if target.getLast? = some '/' && !node.isDirectory then cannot .notDirectory
      else
        if let some cause ← onHost fun host => host.rename cwd source short then cannot cause

/-- Moves files. -/
def mv : Work Unit := do
  let manner : Options.Manner := { flags := "f" }
  let taken ← manner.ofCall
  for (source, target) in ← pairsOf taken.operands do move source target

/-! ## Linking -/

/-- Makes a link at a path, in place of what stands there if so forced. A link that is not symbolic
is a copy. -/
def link (symbolic force : Bool) (source target : Text) : Work Unit := do
  let node ←
    if symbolic then pure (Except.ok (Node.link (Text.toBytes source)))
    else pure ((← find false source).map (·.2))
  let cwd := (← get).call.cwd
  match node with
  | .error cause => warnAt "failed to access" source cause
  | .ok (.directory _) =>
    warn (Shown.name source ++ ": hard link not allowed for directory".toList)
    mark 1
  | .ok node =>
    if force then
      if let .ok (place, there) ← find false target then
        unless there.isDirectory do onHost fun host => ((), host.erase place)
    if let some cause ← onHost fun host => host.make cwd target node then
      warnAt (if symbolic then "failed to create symbolic link" else "failed to create hard link")
        target cause

/-- Makes links. -/
def ln : Work Unit := do
  let manner : Options.Manner := { flags := "fs" }
  let taken ← manner.ofCall
  match taken.operands with
  | [only] => link (taken.has 's') (taken.has 'f') only (insideOf ['.'] only)
  | operands =>
    for (source, target) in ← pairsOf operands do link (taken.has 's') (taken.has 'f') source target

end CheckoutLint.Utility.Transfer
