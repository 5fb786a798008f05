import CheckoutLint.Shell.Builtin.Arguments
import CheckoutLint.Shell.Expansion

/-!
The shell's own command that reads a line. The line is shared out among variables: each gets a
field, and the last one gets what is left, without the blanks at its end.

Main statement:

* `Read.share_of_plain`: a line without separators is the value of the first variable.
-/

namespace CheckoutLint.Shell.Read

/-! ## Sharing out -/

/-- A line on the way of being shared out. -/
structure Sharing where
  /-- How many fields are still to be found; the last of them ends with the line. -/
  wanted : Nat
  /-- The fields that are done, newest first. -/
  done : List Text := []
  /-- The current field, newest first. -/
  field : Text := []
  /-- Where the last field ends if nothing more comes that belongs to it. -/
  cut : Option Nat := none
  afterBlank : Bool := false

namespace Sharing

/-- Takes a character, which may be a separator. -/
def take (separators : Text) (sharing : Sharing) (c : Char) : Sharing :=
  let separates := separators.contains c
  let isBlank := separates && (c = ' ' || c = '\t' || c = '\n')
  let longer := { sharing with field := c :: sharing.field }
  match sharing.wanted with
  | 0 =>
    if isBlank then { longer with cut := some (sharing.cut.getD sharing.field.length) }
    else if separates && sharing.afterBlank then { longer with afterBlank := false }
    else { longer with cut := none, afterBlank := false }
  | wanted + 1 =>
    if sharing.afterBlank && separates then { sharing with afterBlank := isBlank }
    else if separates then
      if isBlank && sharing.field.isEmpty then sharing
      else if wanted = 0 then
        { longer with wanted := 0, cut := some sharing.field.length, afterBlank := isBlank }
      else
        { sharing with
          wanted, field := [], done := sharing.field.reverse :: sharing.done
          afterBlank := isBlank }
    else { longer with afterBlank := false }

/-- Takes a character of a line, which stands for itself if it is quoted. -/
def add (separators : Text) (sharing : Sharing) (entry : Char × Bool) : Sharing :=
  if entry.2 then { sharing with field := entry.1 :: sharing.field, afterBlank := false }
  else sharing.take separators entry.1

/-- The fields. -/
def fields (sharing : Sharing) : List Text :=
  let last := sharing.field.reverse
  (((sharing.cut.map last.take).getD last) :: sharing.done).reverse

end Sharing

/-- The fields of a line, no more than so many. -/
def share (separators : Text) (count : Nat) (line : Marked) : List Text :=
  (line.foldl (Sharing.add separators) { wanted := count }).fields

/-- A line without separators is the value of the first variable. -/
theorem share_of_plain {separators line : Text} (h : ∀ c ∈ line, c ∉ separators) (count : Nat) :
    share separators (count + 1) (line.map (·, false)) = [line] := by
  have step : ∀ (done : Text) (text : Text), (∀ c ∈ text, c ∉ separators) →
      (text.map (·, false)).foldl (Sharing.add separators)
        { wanted := count + 1, field := done } =
        { wanted := count + 1, field := text.reverse ++ done } := by
    intro done text
    induction text generalizing done with
    | nil => intro _; rfl
    | cons c text ih =>
      intro plain
      have hc : c ∉ separators := plain c List.mem_cons_self
      rw [List.map_cons, List.foldl_cons]
      have one : Sharing.add separators { wanted := count + 1, field := done } (c, false) =
          { wanted := count + 1, field := c :: done } := by
        simp [Sharing.add, Sharing.take, hc]
      rw [one, ih (c :: done) fun d mem => plain d (List.mem_cons_of_mem _ mem)]
      simp
  simp [share, step [] line h, Sharing.fields]

/-! ## Lines -/

/-- The characters of a line, of which some are quoted, newest first, and whether it has come to its
end. A backslash quotes the next character and joins the next line. -/
def readChars (raw : Bool) (number fuel : Nat) (read : Marked) : Sh (Marked × Bool) :=
  match fuel with
  | 0 => return (read, false)
  | fuel + 1 => do
    match ← onHost fun host => host.readLine number with
    | .error _ => return (read, false)
    | .ok line =>
      let (chars, isOpen) := mark line read
      match chars with
      | ('\n', false) :: read => return (read, true)
      | _ =>
        if isOpen && line.getLast? = some '\n' then readChars raw number fuel chars
        else return (chars, false)
where
  /-- The characters of a part of a line, and whether the next line belongs to it. -/
  mark : Text → Marked → Marked × Bool
  | [], read => (read, false)
  | '\\' :: '\n' :: rest, read =>
    if raw then mark rest (('\n', false) :: ('\\', false) :: read) else (read, true)
  | '\\' :: c :: rest, read =>
    if raw then mark (c :: rest) (('\\', false) :: read)
    else if c = '\x00' then mark ('\\' :: rest) read
    else mark rest ((c, true) :: read)
  | ['\\'], read => if raw then (('\\', false) :: read, false) else (read, false)
  | c :: rest, read => mark rest (if c = '\x00' then read else (c, false) :: read)

/-- Sets variables to fields; those for which there are none are set to nothing. -/
def assignFields : List Text → List Text → Sh Unit
  | [], _ => return
  | name :: names, fields => do
    checkName name
    assign name (fields.headD [])
    assignFields names fields.tail

/-- Reads a line into variables. -/
def run (arguments : List Text) : Sh Nat := do
  let (options, names) ← takeOptions "p:r" arguments
  let raw := options.any fun option => option.1 = 'r'
  let shell ← get
  if names.isEmpty then fail "arg count".toList
  let (line, hasEnd) ←
    match shell.streams.lookup 0 with
    | none => pure ([], false)
    | some number => readChars raw number 1000000 []
  assignFields names (share (separators shell) names.length line.reverse)
  return if hasEnd then 0 else 1

end CheckoutLint.Shell.Read
