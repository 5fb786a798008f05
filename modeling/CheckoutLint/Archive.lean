import CheckoutLint.Disk.Edit

/-!
Tape archives. An archive is a row of blocks of 512 bytes: a header for each entry, then the bytes
of the entry, filled up to a whole block. A header without a name ends the archive. Names that do
not fit into a header come in an entry of their own before it.

Main statement:

* `Archive.blocks_le`: an entry's data fills whole blocks.
-/

namespace CheckoutLint.Archive

/-- What an entry of an archive is. -/
inductive Content where
  | file (bytes : Bytes) (executable : Bool)
  | directory
  | link (target : Bytes)
  | pipe
  deriving DecidableEq, Repr

/-- An entry of an archive. -/
structure Entry where
  path : Bytes
  content : Content
  deriving DecidableEq, Repr

/-- The size of a block. -/
def blockSize : Nat := 512

/-- The number of bytes that data of a given size fills. -/
def blocks (size : Nat) : Nat := (size + (blockSize - 1)) / blockSize * blockSize

/-- A size rounded up to whole blocks. -/
theorem blocks_le (size : Nat) : size ≤ blocks size ∧ blocks size % blockSize = 0 := by
  simp only [blocks, blockSize]
  omega

/-! ## Headers -/

/-- The bytes of a field of a header. -/
def field (start size : Nat) (header : Bytes) : Bytes := (header.drop start).take size

/-- The path in a field, which a zero byte ends. -/
def pathField (start size : Nat) (header : Bytes) : Bytes :=
  (field start size header).takeWhile (· ≠ 0)

/-- The number in a field, written in octal digits. -/
def numberField (start size : Nat) (header : Bytes) : Nat :=
  ((field start size header).filter fun b => 48 ≤ b && b ≤ 55).foldl
    (fun n b => 8 * n + (b.toNat - 48)) 0

/-- The path in a header; a long one is cut in two at a slash. -/
def pathOf (header : Bytes) : Bytes :=
  let directory := pathField 345 155 header
  let name := pathField 0 100 header
  if directory.isEmpty then name else directory ++ PathSign.slash :: name

/-- The number of bytes of an entry's data. -/
def sizeOf (header : Bytes) : Nat := numberField 124 12 header

/-- The character that tells what an entry is. -/
def kindOf (header : Bytes) : Char := Char.ofNat ((header.drop 156).headD 0).toNat

/-- The content of an entry; nothing if it is of a kind that a checkout does not hold. -/
def contentOf? (header data : Bytes) : Option Content :=
  match kindOf header with
  | '\x00' | '0' => some (.file data (numberField 100 8 header / 64 % 2 == 1))
  | '2' => some (.link (pathField 157 100 header))
  | '5' => some .directory
  | '6' => some .pipe
  | _ => none

/-! ## Entries -/

/-- The entries of an archive, given the path that was announced for the next one. -/
def entriesFrom (announced : Option Bytes) (bytes : Bytes) : List Entry :=
  if bytes.length < blockSize then []
  else
    let header := bytes.take blockSize
    let rest := bytes.drop blockSize
    let path := announced.getD (pathOf header)
    let data := rest.take (sizeOf header)
    if path.isEmpty then []
    else if kindOf header = 'L' then
      entriesFrom (some (data.takeWhile (· ≠ 0)))
        (rest.drop (blocks (sizeOf header)))
    else
      ((contentOf? header data).map (Entry.mk path)).toList ++
        entriesFrom none (rest.drop (blocks (sizeOf header)))
termination_by bytes.length
decreasing_by
  all_goals
    simp only [List.length_drop]
    simp only [blockSize] at *
    omega

/-- The entries of an archive. -/
def entries (bytes : Bytes) : List Entry := entriesFrom none bytes

/-- Puts an entry on a disk. -/
def place (disk : Disk) (cwd : Place) (entry : Entry) : Except SystemError Disk :=
  match entry.content with
  | .file bytes executable => disk.write cwd entry.path bytes executable
  | .directory => disk.makeDirectory cwd entry.path
  | .link target => disk.make cwd entry.path (.link target)
  | .pipe => disk.make cwd entry.path (.pipe [])

/-- Unpacks an archive on a disk. Entries that cannot be placed are passed over. -/
def unpack (disk : Disk) (cwd : Place) (bytes : Bytes) : Disk :=
  (entries bytes).foldl (fun disk entry => (place disk cwd entry).toOption.getD disk) disk

end CheckoutLint.Archive
