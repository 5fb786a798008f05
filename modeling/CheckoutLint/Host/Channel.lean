import CheckoutLint.Host.Basic

/-!
Reading and writing open files. What gives without end gives no more than the host's budget, and
the host notes when somebody came to the end of that.
-/

namespace CheckoutLint.Host

/-! ## Writing -/

/-- The bytes of a file once something has been written at an offset. -/
def overlay (old : List UInt8) (offset : Nat) (new : List UInt8) : List UInt8 :=
  let gap := List.replicate (offset - old.length) 0
  old.take offset ++ gap ++ new ++ old.drop (offset + new.length)

/-- Writes to an open file; gives why that is impossible, if so. -/
def write (host : Host) (number : Nat) (text : Text) : Option SystemError × Host :=
  match host.open? number with
  | some (.collector parts size limit) =>
    if limit.any fun most => most ≤ size then (some .brokenPipe, host)
    else (none, host.alter number (.collect parts size limit text))
  | some (.regular place canRead canWrite atEnd offset known) =>
    if !canWrite then (some .badStream, host)
    else
      match host.disk.at? place with
      | some (.file bytes executable) =>
        let start := if atEnd then bytes.length else offset
        let bytes := overlay bytes start (Text.toBytes text)
        let host := host.alter number
          (.regular place canRead canWrite atEnd (start + text.length) known)
        (none, { host with
          disk := host.disk.put place (.file bytes executable), time := host.time + 1 })
      | _ => (none, host)
  | some .nothing | some .zeros => (none, host)
  | some .full => (if text.isEmpty then none else some .noSpace, host)
  | some (.supply _ _) | some (.directory _) | none => (some .badStream, host)

/-! ## Reading -/

/-- What can still be read from an open file, and the host with that remembered. -/
def available (host : Host) (number : Nat) : Except SystemError Text × Host :=
  match host.open? number with
  | some (.regular place canRead canWrite atEnd offset known) =>
    if !canRead then (.error .badStream, host)
    else
      match known with
      | some (time, rest) =>
        if time = host.time then (.ok rest, host) else fresh place canWrite atEnd offset
      | none => fresh place canWrite atEnd offset
  | some (.supply rest _) => (.ok rest, host)
  | some .nothing => (.ok [], host)
  | some .zeros | some .full => (.ok (List.replicate host.budget '\x00'), host)
  | some (.directory _) => (.error .isDirectory, host)
  | some (.collector _ _ _) | none => (.error .badStream, host)
where
  /-- Reads a file on disk behind an offset. -/
  fresh (place : Place) (canWrite atEnd : Bool) (offset : Nat) : Except SystemError Text × Host :=
    let rest :=
      match host.disk.at? place with
      | some (.file bytes _) => Text.ofBytes (bytes.drop offset)
      | _ => []
    (.ok rest, host.alter number
      (.regular place true canWrite atEnd offset (some (host.time, rest))))

/-- Goes on in an open file, given how much has been read and what is left. Coming to the end of
what was cut is noted. -/
def advance (host : Host) (number count : Nat) (rest : Text) (sawEnd : Bool) : Host :=
  match host.open? number with
  | some (.regular place canRead canWrite atEnd offset _) =>
    host.alter number
      (.regular place canRead canWrite atEnd (offset + count) (some (host.time, rest)))
  | some (.supply _ isCut) =>
    let host := host.alter number (.supply rest isCut)
    if sawEnd && isCut then { host with isStarved := true } else host
  | some .zeros | some .full => if sawEnd then { host with isStarved := true } else host
  | _ => host

/-- Reads an open file to its end. -/
def readAll (host : Host) (number : Nat) : Except SystemError Text × Host :=
  match host.available number with
  | (.error cause, host) => (.error cause, host)
  | (.ok text, host) => (.ok text, host.advance number text.length [] true)

/-- The first line of a text with its end, which the last line may lack, and what follows. -/
def splitLine (text : Text) : Text × Text :=
  let line := text.takeWhile (· ≠ '\n')
  match text.dropWhile (· ≠ '\n') with
  | [] => (line, [])
  | c :: rest => (line ++ [c], rest)

/-- Reads up to the end of a line; the end is kept. -/
def readLine (host : Host) (number : Nat) : Except SystemError Text × Host :=
  match host.available number with
  | (.error cause, host) => (.error cause, host)
  | (.ok text, host) =>
    let (line, rest) := splitLine text
    (.ok line, host.advance number line.length rest (line.getLast? != some '\n'))

end CheckoutLint.Host
