import CheckoutLint.Disk.Path
import CheckoutLint.Entries

/-!
Trees of files. Names are strings of bytes, which need not be UTF-8. A directory lists its entries
in some order; a link holds the path of its target and nothing else. A place in a tree is named from
the inside out, so that the directory around a place is its tail.
-/

namespace CheckoutLint

/-- A file, a directory with its entries, a symbolic link, or a named pipe with what is written to
it for who reads it. -/
inductive Node where
  | file (bytes : Bytes) (executable : Bool)
  | directory (entries : List (Bytes × Node))
  | link (target : Bytes)
  | pipe (written : Bytes)

/-- A place in a tree: the names from the innermost out to the root. -/
abbrev Place := List Bytes

/-- The absolute path of a place. -/
def Place.path (place : Place) : Bytes :=
  PathSign.slash :: Text.joinWith [PathSign.slash] place.reverse

/-- The names of a place from the outside in, with slashes between them, as a text. Bytes that are
no text are replaced, name by name. -/
def Place.shown (place : Place) : Text :=
  Text.joinWith ['/'] (place.reverse.map Text.decodeLossy)

namespace Node

/-- What a node holds under a name. -/
def entry? (node : Node) (name : Bytes) : Option Node :=
  match node with
  | .directory entries => entries.lookup name
  | _ => none

/-- What stands at a place below a node. Links are not followed. -/
def find? (root : Node) : Place → Option Node
  | [] => some root
  | name :: place => (root.find? place).bind fun node => node.entry? name

/-- Whether a node is a directory. -/
def isDirectory : Node → Bool
  | .directory _ => true
  | _ => false

/-! ## Changes -/

/-- A node with another in place of what stands at a path of names, read from the outside in.
Directories are made where the path leads through nothing; where it leads through something else,
nothing changes. -/
def put : Node → List Bytes → Node → Node
  | _, [], new => new
  | .directory entries, name :: names, new =>
    .directory
      (Entries.set name (put ((entries.lookup name).getD (.directory [])) names new) entries)
  | node, _ :: _, _ => node

/-- A node without what stands at a path of names, read from the outside in. -/
def erase : Node → List Bytes → Node
  | .directory entries, [name] => .directory (Entries.erase name entries)
  | .directory entries, name :: names =>
    match entries.lookup name with
    | some node => .directory (Entries.set name (erase node names) entries)
    | none => .directory entries
  | node, _ => node

end Node

end CheckoutLint
