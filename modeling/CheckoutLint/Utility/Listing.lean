import CheckoutLint.Utility.Files

/-!
The utility that lists what directories hold, one name in a line.
-/

namespace CheckoutLint.Utility.Listing

/-- Names in order. -/
def sorted (names : List Text) : List Text := names.mergeSort Text.isAtMost

/-- What a path names: the directory to which a link leads, or the link itself. -/
def named (path : Text) : Work (Except SystemError Node) := do
  let task ← get
  let look (follow : Bool) : Except SystemError Node :=
    (task.host.find follow task.call.cwd path).map (·.2)
  match look true with
  | .ok (.directory entries) => return .ok (.directory entries)
  | _ => return look false

/-- Lists files and what directories hold; names with a dot in front only if so wanted. -/
def ls : Work Unit := do
  inTrouble 2
  let manner : Options.Manner := { flags := "Ad1", status := 2 }
  let taken ← manner.ofCall
  let paths := if taken.operands.isEmpty then [['.']] else taken.operands
  let mut outside : List Text := []
  let mut inside : List (Text × List (Bytes × Node)) := []
  for path in sorted paths do
    match ← named path with
    | .ok (.directory entries) =>
      if taken.has 'd' then outside := path :: outside else inside := (path, entries) :: inside
    | .ok _ => outside := path :: outside
    | .error cause =>
      warn ("cannot access ".toList ++ Shown.always path ++ ": ".toList ++ cause.reason)
      mark 2
  for path in outside.reverse do putLine path
  let mut isFirst := outside.isEmpty
  for (path, entries) in inside.reverse do
    if 1 < paths.length then put ((if isFirst then [] else ['\n']) ++ path ++ ":\n".toList)
    let names := entries.map fun entry => Text.ofBytes entry.1
    for name in sorted names do
      if taken.has 'A' || name.head? != some '.' then putLine name
    isFirst := false

end CheckoutLint.Utility.Listing
