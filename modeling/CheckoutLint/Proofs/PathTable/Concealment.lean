import CheckoutLint.Proofs.PathTable.LongestMatch

/-!
What a restored line gives away. A line is cut up by the substitution into the temp paths that it
consumes and the characters that it copies. Where the temp paths stand apart, with characters around
them that no temp path has, a temp path of the restored line would lie in a stretch that was copied,
where the substitution would have found it, or in a path of the repository.

* `CutUp.substituted`, `IsArranged.exists_cutUp`: the pieces of a line, and what is written for
  them.
* `IsApart.of_allBounded`: a line in which every temp path stands apart is cut up into
  pieces that do.
* `CutUp.conceals_written`, `IsArranged.conceals_restore`: no temp path is given away.
-/

namespace CheckoutLint

namespace Text

/-- What does not hold a character cannot reach across one. -/
theorem infix_append_cons_iff {needle before after : Text} {c : Char} (absent : c ∉ needle) :
    needle <:+: before ++ c :: after ↔ needle <:+: before ∨ needle <:+: after := by
  constructor
  · intro inside
    rcases List.infix_append_iff.1 inside with left | right | ⟨front, back, rfl, _, begins⟩
    · exact .inl left
    · rcases List.infix_cons_iff.1 right with begins | right
      · cases needle with
        | nil => exact .inl List.nil_infix
        | cons d needle =>
          obtain ⟨rfl, -⟩ := List.cons_prefix_cons.1 begins
          exact absurd List.mem_cons_self absent
      · exact .inr right
    · cases back with
      | nil => exact .inl (by simpa using List.IsSuffix.isInfix ‹front <:+ before›)
      | cons d back =>
        obtain ⟨rfl, -⟩ := List.cons_prefix_cons.1 begins
        exact absurd (List.mem_append_right front List.mem_cons_self) absent
  · rintro (left | right)
    · exact List.infix_append_of_infix_left left
    · exact List.infix_append_of_infix_right (List.infix_cons right)

end Text

namespace PathTable

/-! ## Pieces of a line -/

/-- A piece of a line: a temp path, with the path that stands for it, or a character. -/
inductive Piece where
  | taken (temp path : Text)
  | copied (c : Char)
  deriving DecidableEq, Repr

/-- What a piece is in the line. -/
def Piece.consumed : Piece → Text
  | .taken temp _ => temp
  | .copied c => [c]

/-- What is written for a piece. -/
def Piece.written : Piece → Text
  | .taken _ path => path
  | .copied c => [c]

/-- `CutUp files line pieces`: reading `line` from the left, the substitution consumes these temp
paths and copies these characters. At every position the longest temp path is taken. -/
inductive CutUp (files : List Candidate) : Text → List Piece → Prop
  | done : CutUp files [] []
  | path {temp path rest : Text} {pieces : List Piece} :
    IsLongestTemp files (temp ++ rest) temp → IsLastPath files temp path →
    CutUp files rest pieces → CutUp files (temp ++ rest) (.taken temp path :: pieces)
  | char {c : Char} {s : Text} {pieces : List Piece} :
    (∀ file ∈ files, file.tempPath ≠ [] → ¬ file.tempPath <+: c :: s) →
    CutUp files s pieces → CutUp files (c :: s) (.copied c :: pieces)

variable {files : List Candidate} {line needle : Text} {pieces : List Piece}

/-- The pieces make up the line. -/
theorem CutUp.consumed_eq (cut : CutUp files line pieces) :
    pieces.flatMap Piece.consumed = line := by
  induction cut with
  | done => rfl
  | path _ _ _ ih => rw [List.flatMap_cons, ih, Piece.consumed]
  | char _ _ ih => rw [List.flatMap_cons, ih, Piece.consumed, List.singleton_append]

/-- What is written for the pieces is what the substitution writes. -/
theorem CutUp.substituted (cut : CutUp files line pieces) :
    Substituted files line (pieces.flatMap Piece.written) := by
  induction cut with
  | done => exact .done
  | path longest last _ ih =>
    rw [List.flatMap_cons]
    exact .path longest last ih
  | char none _ ih =>
    rw [List.flatMap_cons]
    exact .char none ih

/-- Every line is cut up at the temp paths that are consumed. -/
theorem IsArranged.exists_cutUp {table : PathTable} (arranged : IsArranged files table)
    (line : Text) : ∃ pieces, CutUp files line pieces := by
  have substituted := arranged.substituted_restore line
  generalize table.restore line = out at substituted
  induction substituted with
  | done => exact ⟨[], .done⟩
  | path longest last _ ih =>
    obtain ⟨pieces, cut⟩ := ih
    exact ⟨_, .path longest last cut⟩
  | char none _ ih =>
    obtain ⟨pieces, cut⟩ := ih
    exact ⟨_, .char none cut⟩

/-- What is restored are the pieces of the line as they are written. -/
theorem IsArranged.restore_eq_written {table : PathTable} (arranged : IsArranged files table)
    (cut : CutUp files line pieces) : table.restore line = pieces.flatMap Piece.written :=
  arranged.restore_eq_iff.2 cut.substituted

/-! ## Temp paths that stand apart -/

/-- A character that no temp path has. -/
def IsSeparator (files : List Candidate) (c : Char) : Prop := ∀ file ∈ files, c ∉ file.tempPath

instance (files : List Candidate) (c : Char) : Decidable (IsSeparator files c) :=
  inferInstanceAs (Decidable (∀ file ∈ files, c ∉ file.tempPath))

/-- What stands before and after a temp path in a line keeps it apart: on each side the line ends,
or a separator follows. -/
def IsBounded (files : List Candidate) (before after : Text) : Prop :=
  (∀ c ∈ before.getLast?, IsSeparator files c) ∧ ∀ c ∈ after.head?, IsSeparator files c

/-- Every temp path in a line is kept apart, whether the substitution consumes it or not. -/
def AllBounded (files : List Candidate) (line : Text) : Prop :=
  ∀ file ∈ files, file.tempPath ≠ [] →
    ∀ before after, line = before ++ file.tempPath ++ after → IsBounded files before after

/-- Where a temp path begins in a line, what follows it is found by its length. -/
theorem allBounded_iff {files : List Candidate} {line : Text} :
    AllBounded files line ↔ ∀ file ∈ files, file.tempPath ≠ [] → ∀ start < line.length,
      file.tempPath <+: line.drop start →
        IsBounded files (line.take start) (line.drop (start + file.tempPath.length)) := by
  constructor
  · rintro bounded file mem named start - ⟨rest, begins⟩
    have split : line = line.take start ++ file.tempPath ++ rest := by
      rw [List.append_assoc, begins, List.take_append_drop]
    have behind : line.drop (start + file.tempPath.length) = rest := by
      rw [← List.drop_drop, ← begins, List.drop_left]
    rw [behind]
    exact bounded file mem named _ _ split
  · rintro starts file mem named before after rfl
    have nonempty := List.length_pos_iff.2 named
    have inside := starts file mem named before.length (by simp; omega) (by simp)
    rw [← List.drop_drop, List.append_assoc, List.take_left, List.drop_left, List.drop_left]
      at inside
    exact inside

-- Only the two neighbours are looked at, not every character there is.
instance (files : List Candidate) (before after : Text) :
    Decidable (IsBounded files before after) :=
  @instDecidableAnd _ _ (Option.decidableForallMem before.getLast?)
    (Option.decidableForallMem after.head?)

instance (files : List Candidate) (line : Text) : Decidable (AllBounded files line) :=
  decidable_of_iff _ allBounded_iff.symm

/-- Whether two pieces may be neighbours: one that is a temp path has a separator beside it. -/
def MayTouch (files : List Candidate) : Piece → Piece → Prop
  | .taken _ _, .taken _ _ => False
  | .taken _ _, .copied c | .copied c, .taken _ _ => IsSeparator files c
  | .copied _, .copied _ => True

instance (files : List Candidate) : DecidableRel (MayTouch files)
  | .taken _ _, .taken _ _ => inferInstanceAs (Decidable False)
  | .taken _ _, .copied c => inferInstanceAs (Decidable (IsSeparator files c))
  | .copied c, .taken _ _ => inferInstanceAs (Decidable (IsSeparator files c))
  | .copied _, .copied _ => inferInstanceAs (Decidable True)

/-- Every temp path that is consumed has on each side the end of the line or a separator. -/
def IsApart (files : List Candidate) (pieces : List Piece) : Prop :=
  pieces.IsChain (MayTouch files)

instance (files : List Candidate) (pieces : List Piece) : Decidable (IsApart files pieces) :=
  inferInstanceAs (Decidable (pieces.IsChain (MayTouch files)))

/-- No character of a temp path separates. -/
theorem IsLongestTemp.not_isSeparator {s temp : Text} (longest : IsLongestTemp files s temp)
    {c : Char} (mem : c ∈ temp) : ¬ IsSeparator files c := by
  obtain ⟨file, found, rfl⟩ := List.mem_map.1 longest.mem
  exact fun separator => separator file found mem

/-- What comes first in a line is the first character of its first piece. -/
theorem CutUp.mayTouch (cut : CutUp files line pieces) {temp path : Text}
    (bounded : ∀ c ∈ line.head?, IsSeparator files c) :
    ∀ piece ∈ pieces.head?, MayTouch files (.taken temp path) piece := by
  rintro piece first
  cases cut with
  | done => cases first
  | @path temp' path' rest pieces longest _ _ =>
    cases temp' with
    | nil => exact absurd rfl longest.ne_nil
    | cons c temp' =>
      exact absurd (bounded c rfl) (longest.not_isSeparator List.mem_cons_self)
  | char none _ =>
    obtain rfl := Option.some.inj first
    exact bounded _ rfl

/-- What keeps the temp paths of a line apart keeps those of its endings apart. -/
theorem AllBounded.of_append {front : Text} (bounded : AllBounded files (front ++ line)) :
    AllBounded files line := by
  rintro file mem named before after rfl
  obtain ⟨left, right⟩ := bounded file mem named (front ++ before) after (by simp)
  refine ⟨?_, right⟩
  intro c last
  exact left c (by simp [List.getLast?_append, Option.mem_def.1 last])

/-- Where all temp paths are bounded, the pieces of a line lie apart. -/
theorem IsApart.of_allBounded (cut : CutUp files line pieces)
    (bounded : AllBounded files line) : IsApart files pieces := by
  induction cut with
  | done => exact List.isChain_nil
  | @path temp path rest pieces longest _ cut ih =>
    obtain ⟨file, mem, rfl⟩ := List.mem_map.1 longest.mem
    obtain ⟨-, right⟩ := bounded file mem longest.ne_nil [] rest (by simp)
    exact List.isChain_cons.2 ⟨cut.mayTouch right, ih bounded.of_append⟩
  | @char c s pieces none cut ih =>
    have beyond : AllBounded files s := by
      rw [← List.singleton_append] at bounded
      exact bounded.of_append
    refine List.isChain_cons.2 ⟨?_, ih beyond⟩
    intro piece first
    cases cut with
    | done => cases first
    | @path temp path rest pieces longest _ _ =>
      obtain rfl := Option.some.inj first
      obtain ⟨file, mem, rfl⟩ := List.mem_map.1 longest.mem
      obtain ⟨left, -⟩ := bounded file mem longest.ne_nil [c] rest (by simp)
      exact left c rfl
    | char => obtain rfl := Option.some.inj first; trivial

/-! ## Nothing is given away -/

/-- No temp path of the files stands in the text, empty ones left out. -/
def Conceals (files : List Candidate) (s : Text) : Prop :=
  ∀ file ∈ files, file.tempPath ≠ [] → ¬ file.tempPath <:+: s

instance (files : List Candidate) (s : Text) : Decidable (Conceals files s) :=
  inferInstanceAs (Decidable (∀ file ∈ files, file.tempPath ≠ [] → ¬ file.tempPath <:+: s))

/-- What is written for a stretch of copied characters is the stretch; a text without separators
that begins it ends before the next temp path. -/
theorem IsApart.prefix_consumed {c : Char} (apart : IsApart files (.copied c :: pieces))
    (plain : ∀ d ∈ needle, ¬ IsSeparator files d)
    (begins : needle <+: c :: pieces.flatMap Piece.written) :
    needle <+: c :: pieces.flatMap Piece.consumed := by
  induction pieces generalizing c needle with
  | nil => exact begins
  | cons piece pieces ih =>
    cases needle with
    | nil => exact List.nil_prefix
    | cons d needle =>
      obtain ⟨rfl, rest⟩ := List.cons_prefix_cons.1 begins
      obtain ⟨touch, apart⟩ := List.isChain_cons_cons.1 apart
      cases piece with
      | taken temp path => exact absurd touch (plain d List.mem_cons_self)
      | copied c =>
        have further := ih apart (fun e mem => plain e (List.mem_cons_of_mem _ mem)) rest
        exact List.cons_prefix_cons.2 ⟨rfl, further⟩

/-- Where the temp paths stand apart, none is left in what is written: not in a stretch that was
copied, not in a path, and not across a seam between the two. -/
theorem CutUp.conceals_written (cut : CutUp files line pieces) (apart : IsApart files pieces)
    (paths : ∀ file ∈ files, Conceals files file.path) :
    Conceals files (pieces.flatMap Piece.written) := by
  intro file mem named
  have plain : ∀ d ∈ file.tempPath, ¬ IsSeparator files d :=
    fun d found separator => separator file mem found
  induction cut with
  | done => simpa using named
  | @path temp path rest pieces _ last _ ih =>
    obtain ⟨before, other, after, rfl, -, rfl, -⟩ := last
    have hidden := paths other (by simp) file mem named
    cases pieces with
    | nil => simpa [Piece.written] using hidden
    | cons piece pieces =>
      obtain ⟨touch, apart⟩ := List.isChain_cons_cons.1 apart
      cases piece with
      | taken => exact absurd touch id
      | copied c =>
        have further := ih apart
        rw [List.flatMap_cons, List.flatMap_cons, Piece.written, Piece.written,
          List.singleton_append,
          Text.infix_append_cons_iff fun found => plain c found touch]
        rintro (inside | beyond)
        · exact hidden inside
        · exact further (List.infix_cons beyond)
  | @char c s pieces none cut ih =>
    rw [List.flatMap_cons, Piece.written, List.singleton_append, List.infix_cons_iff]
    rintro (begins | beyond)
    · have begins := apart.prefix_consumed plain begins
      rw [cut.consumed_eq] at begins
      exact none file mem named begins
    · exact ih (List.isChain_cons.1 apart).2 beyond

/-- Where all temp paths are bounded, a restored line conceals them. -/
theorem IsArranged.conceals_restore {table : PathTable} (arranged : IsArranged files table)
    (paths : ∀ file ∈ files, Conceals files file.path) (bounded : AllBounded files line) :
    Conceals files (table.restore line) := by
  obtain ⟨pieces, cut⟩ := arranged.exists_cutUp line
  rw [arranged.restore_eq_written cut]
  exact cut.conceals_written (.of_allBounded cut bounded) paths

end PathTable

end CheckoutLint
