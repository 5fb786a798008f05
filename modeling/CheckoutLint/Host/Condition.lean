import CheckoutLint.Host.Files

/-!
Conditions on files, each known by a letter. Programs may read and write whatever is there; to be
executed, a file must be marked for it.
-/

namespace CheckoutLint.Host

/-- Whether a place is that of a device. -/
def isDevice (place : Place) : Bool := (device? place).isSome

/-- Whether a node at a place fulfils the condition of a letter. -/
def nodeFulfils (letter : Char) (place : Place) (node : Node) : Bool :=
  match letter, node with
  | 'e', _ | 'r', _ | 'w', _ | 'O', _ | 'G', _ => true
  | 'f', .file _ _ => true
  | 'd', .directory _ => true
  | 'x', .file _ executable => executable
  | 'x', .directory _ => true
  | 's', .file bytes _ => !bytes.isEmpty
  | 's', .directory _ => true
  | 'p', .pipe _ => !isDevice place
  | 'c', .pipe _ => isDevice place
  | 'h', .link _ | 'L', .link _ => true
  | _, _ => false

/-- Whether what a path leads to fulfils the condition of a letter. Only the letters for links ask
about a link itself. -/
def fulfils (host : Host) (cwd : Place) (letter : Char) (path : Text) : Bool :=
  match host.find (!(letter = 'h' || letter = 'L')) cwd path with
  | .ok (place, node) => nodeFulfils letter place node
  | .error _ => (streamOfPath? path).isSome && (letter = 'e' || letter = 'r' || letter = 'w')

/-- Whether two paths lead to the same place. -/
def sameFile (host : Host) (cwd : Place) (first second : Text) : Bool :=
  match host.find true cwd first, host.find true cwd second with
  | .ok (a, _), .ok (b, _) => a == b
  | _, _ => false

end CheckoutLint.Host
