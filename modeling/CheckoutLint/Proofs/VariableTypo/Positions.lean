import CheckoutLint.Inspection
import Mathlib

/-!
References to misspelled variables by their positions. The scan goes through a line from left to
right, tries the ways to write a misspelled reference one after the other, and goes on behind each
reference that it finds. It misses none and finds nothing else: at a position at most one way fits,
and no reference begins inside of another one.

* `StandsAt.unique`: at most one way fits.
* `mem_places_iff`, `pairwise_places`: the references of a line, by their columns.
* `inLine_eq_places`: what the scan finds in a line.
* `correction?_of_mem_inLine`: the table of corrections has every reference that is found.
* `check_variables`: what is said of files.
-/

namespace CheckoutLint

namespace VariableTypo

/-! ## References at a position -/

/-- The ways to write a reference to a misspelled variable, in the order in which they are tried. -/
def alternatives : List Reference :=
  all.flatMap fun typo => [⟨typo.bare, typo⟩, ⟨typo.braced, typo⟩]

/-- `StandsAt s reference`: the text begins with this reference to a variable of the table, which is
in braces, or bare and followed by the end or by a character that does not go on a name. -/
def StandsAt (s : Text) (reference : Reference) : Prop :=
  reference.typo ∈ all ∧ ∃ rest, s = reference.written ++ rest ∧
    (reference.written = reference.typo.braced ∨
      reference.written = reference.typo.bare ∧ ∀ c ∈ rest.head?, isNameChar c = false)

/-- Whether a way to write a reference fits the front of a text. -/
def fits (s : Text) (reference : Reference) : Bool :=
  (Text.dropStart? reference.written s).any fun rest =>
    reference.written = reference.typo.braced || endsName rest

/-- The ways that fit the front of a text. -/
def standing (s : Text) : List Reference := alternatives.filter (fits s)

/-- A reference, and the column that it begins at. -/
structure Place where
  column : Nat
  reference : Reference
  deriving DecidableEq, Repr

/-- The references that begin in what is left of a line from this column on, column by column. -/
def placesFrom (column : Nat) : Text → List Place
  | [] => []
  | c :: s => (standing (c :: s)).map (⟨column, ·⟩) ++ placesFrom (column + 1) s

/-- The references that begin in a line, column by column. -/
def places (line : Text) : List Place := placesFrom 0 line

section Standing

variable {s rest : Text} {typo : VariableTypo} {reference other : Reference}

theorem endsName_iff : endsName s = true ↔ ∀ c ∈ s.head?, isNameChar c = false := by
  cases s <;> simp [endsName]

theorem isNameChar_of_mem (known : typo ∈ all) : ∀ c ∈ typo.written, isNameChar c = true := by
  have letters : (all.all fun typo => typo.written.all isNameChar) = true := by decide
  exact List.all_eq_true.1 (List.all_eq_true.1 letters typo known)

theorem written_ne_nil (known : typo ∈ all) : typo.written ≠ [] := by
  have full : ∀ typo ∈ all, typo.written ≠ [] := by decide
  exact full typo known

/-- No two variables of the table are written alike. -/
theorem eq_of_written_eq {other : VariableTypo} (known : typo ∈ all) (otherKnown : other ∈ all)
    (same : typo.written = other.written) : typo = other := by
  have distinct : ∀ typo ∈ all, ∀ other ∈ all, typo.written = other.written → typo = other := by
    decide
  exact distinct typo known other otherKnown same

/-- The alternatives are the bare and the braced form of each variable. -/
theorem mem_alternatives_iff :
    reference ∈ alternatives ↔ reference.typo ∈ all ∧
      (reference.written = reference.typo.bare ∨ reference.written = reference.typo.braced) := by
  obtain ⟨written, typo⟩ := reference
  simp only [alternatives, List.mem_flatMap, List.mem_cons, List.not_mem_nil, or_false,
    Reference.mk.injEq]
  constructor
  · rintro ⟨typo, known, ⟨rfl, rfl⟩ | ⟨rfl, rfl⟩⟩
    · exact ⟨known, .inl rfl⟩
    · exact ⟨known, .inr rfl⟩
  · rintro ⟨known, rfl | rfl⟩
    · exact ⟨typo, known, .inl ⟨rfl, rfl⟩⟩
    · exact ⟨typo, known, .inr ⟨rfl, rfl⟩⟩

/-- A form fits where it stands, a bare one only if the name ends there. -/
theorem fits_iff : fits s reference = true ↔ ∃ rest, s = reference.written ++ rest ∧
    (reference.written = reference.typo.braced ∨ ∀ c ∈ rest.head?, isNameChar c = false) := by
  simp only [fits, Option.any_eq_true, Bool.or_eq_true, decide_eq_true_eq,
    Text.dropStart?_eq_some_iff, endsName_iff]

/-- The alternatives that fit are the references that stand there. -/
theorem mem_standing_iff : reference ∈ standing s ↔ StandsAt s reference := by
  rw [standing, List.mem_filter, mem_alternatives_iff, fits_iff, StandsAt]
  constructor
  · rintro ⟨⟨known, shape⟩, rest, split, ends⟩
    refine ⟨known, rest, split, ?_⟩
    rcases ends with braced | ends
    · exact .inl braced
    · exact shape.symm.imp_right fun bare => ⟨bare, ends⟩
  · rintro ⟨known, rest, split, braced | ⟨bare, ends⟩⟩
    · exact ⟨⟨known, .inr braced⟩, rest, split, .inl braced⟩
    · exact ⟨⟨known, .inl bare⟩, rest, split, .inr ends⟩

/-! ## One way at most -/

/-- The name behind a dollar sign or a brace goes as far as its characters do. -/
theorem takeWhile_written (known : typo ∈ all) (ends : ∀ c ∈ rest.head?, isNameChar c = false) :
    (typo.written ++ rest).takeWhile isNameChar = typo.written := by
  rw [List.takeWhile_append_of_pos (isNameChar_of_mem known)]
  cases rest with
  | nil => simp
  | cons c rest => simp [ends c rfl]

/-- Two variables that stand at one place, each up to the end of its name, are the same. -/
theorem eq_of_append_eq {other : VariableTypo} {left : Text} (known : typo ∈ all)
    (otherKnown : other ∈ all) (ends : ∀ c ∈ rest.head?, isNameChar c = false)
    (otherEnds : ∀ c ∈ left.head?, isNameChar c = false)
    (same : typo.written ++ rest = other.written ++ left) : typo = other := by
  refine eq_of_written_eq known otherKnown ?_
  rw [← takeWhile_written known ends, same, takeWhile_written otherKnown otherEnds]

/-- No name begins with a brace. -/
theorem bare_append_ne (known : typo ∈ all) (other : VariableTypo) (rest left : Text) :
    typo.bare ++ rest ≠ other.braced ++ left := by
  obtain ⟨c, name, eq⟩ := List.exists_cons_of_ne_nil (written_ne_nil known)
  have letter : isNameChar c = true := isNameChar_of_mem known c (by simp [eq])
  intro same
  obtain ⟨rfl, -⟩ : c = '\x7b' ∧ _ := by simpa [bare, braced, eq] using same
  exact absurd letter (by decide)

theorem braced_append (typo : VariableTypo) (rest : Text) :
    typo.braced ++ rest = '$' :: '\x7b' :: (typo.written ++ '\x7d' :: rest) := by
  simp [braced]

/-- At most one way to write a reference fits the front of a text. -/
theorem StandsAt.unique (stands : StandsAt s reference) (others : StandsAt s other) :
    reference = other := by
  obtain ⟨written, typo⟩ := reference
  obtain ⟨otherWritten, otherTypo⟩ := other
  obtain ⟨known, rest, rfl, shape⟩ := stands
  obtain ⟨otherKnown, left, same, otherShape⟩ := others
  dsimp only at *
  rcases shape with rfl | ⟨rfl, ends⟩ <;> rcases otherShape with rfl | ⟨rfl, otherEnds⟩
  · rw [braced_append, braced_append, List.cons_inj_right, List.cons_inj_right] at same
    have brace (rest : Text) : ∀ c ∈ ('\x7d' :: rest).head?, isNameChar c = false := by
      rintro c ⟨⟩
      rfl
    rw [eq_of_append_eq known otherKnown (brace rest) (brace left) same]
  · exact absurd same.symm (bare_append_ne otherKnown typo left rest)
  · exact absurd same (bare_append_ne known otherTypo rest left)
  · rw [bare, bare, List.cons_append, List.cons_append, List.cons_inj_right] at same
    rw [eq_of_append_eq known otherKnown ends otherEnds same]

/-- At most one reference stands at a place. -/
theorem standing_eq (stands : StandsAt s reference) : standing s = [reference] := by
  have mem := mem_standing_iff.2 stands
  have apart : (standing s).Nodup := List.Nodup.filter _ (by decide)
  have alone : ∀ other ∈ standing s, other = reference := fun other mem =>
    (mem_standing_iff.1 mem).unique stands
  have once : (standing s).length = 1 :=
    (List.count_eq_length.2 fun other mem => (alone other mem).symm).symm.trans
      (List.count_eq_one_of_mem apart mem)
  rw [List.eq_replicate_of_mem alone, once, List.replicate_one]

theorem standing_eq_nil (nowhere : ∀ reference, ¬ StandsAt s reference) : standing s = [] :=
  List.eq_nil_iff_forall_not_mem.2 fun reference mem => nowhere reference (mem_standing_iff.1 mem)

/-! ## None inside of another -/

/-- A reference has a dollar sign at its front, and nowhere else. -/
theorem StandsAt.exists_tail (stands : StandsAt s reference) :
    ∃ tail, reference.written = '$' :: tail ∧ '$' ∉ tail := by
  obtain ⟨known, rest, -, shape⟩ := stands
  have name : '$' ∉ reference.typo.written := fun mem =>
    absurd (isNameChar_of_mem known '$' mem) (by decide)
  rcases shape with eq | ⟨eq, -⟩
  · exact ⟨'\x7b' :: (reference.typo.written ++ "\x7d".toList), by simp [eq, braced], by simpa⟩
  · exact ⟨reference.typo.written, eq, name⟩

theorem StandsAt.head? (stands : StandsAt s reference) : s.head? = some '$' := by
  obtain ⟨tail, eq, -⟩ := stands.exists_tail
  obtain ⟨-, rest, rfl, -⟩ := stands
  rw [eq]
  rfl

theorem standing_cons_of_ne {c : Char} (ne : c ≠ '$') (s : Text) : standing (c :: s) = [] :=
  standing_eq_nil fun _ stands => ne (Option.some.inj stands.head?)

/-- Characters without the sign only move the places. -/
theorem placesFrom_append {tail : Text} (plain : '$' ∉ tail) (column : Nat) (rest : Text) :
    placesFrom column (tail ++ rest) = placesFrom (column + tail.length) rest := by
  induction tail generalizing column with
  | nil => rfl
  | cons c tail ih =>
    rw [List.mem_cons, not_or] at plain
    rw [List.cons_append, placesFrom, standing_cons_of_ne (Ne.symm plain.1), ih plain.2,
      List.length_cons]
    simp [Nat.add_assoc, Nat.add_comm 1]

/-- A reference hides no other one: behind it the places are those of what is left. -/
theorem placesFrom_of_standsAt (stands : StandsAt (reference.written ++ rest) reference)
    (column : Nat) :
    placesFrom column (reference.written ++ rest) =
      ⟨column, reference⟩ :: placesFrom (column + reference.written.length) rest := by
  have first := standing_eq stands
  obtain ⟨tail, eq, plain⟩ := stands.exists_tail
  rw [eq, List.cons_append] at first ⊢
  rw [placesFrom, first, placesFrom_append plain, List.length_cons]
  simp [Nat.add_assoc, Nat.add_comm 1]

/-! ## Columns -/

/-- The search finds the references of a text, moved by its starting column. -/
theorem mem_placesFrom_iff {place : Place} {column : Nat} :
    place ∈ placesFrom column s ↔
      ∃ skipped, place.column = column + skipped ∧ StandsAt (s.drop skipped) place.reference := by
  induction s generalizing column with
  | nil =>
    simp only [placesFrom, List.not_mem_nil, List.drop_nil, false_iff]
    rintro ⟨-, -, stands⟩
    exact absurd stands.head? (by simp)
  | cons c s ih =>
    rw [placesFrom, List.mem_append, List.mem_map, ih]
    constructor
    · rintro (⟨reference, mem, rfl⟩ | ⟨skipped, eq, stands⟩)
      · exact ⟨0, rfl, mem_standing_iff.1 mem⟩
      · exact ⟨skipped + 1, by omega, stands⟩
    · rintro ⟨skipped, eq, stands⟩
      cases skipped with
      | zero =>
        obtain ⟨_, reference⟩ := place
        obtain rfl : _ = column := eq
        exact .inl ⟨reference, mem_standing_iff.2 stands, rfl⟩
      | succ skipped => exact .inr ⟨skipped, by omega, stands⟩

/-- No reference begins before the one to its left ends. -/
theorem pairwise_placesFrom (column : Nat) (s : Text) :
    (placesFrom column s).Pairwise fun place next =>
      place.column + place.reference.written.length ≤ next.column := by
  induction s generalizing column with
  | nil => exact List.Pairwise.nil
  | cons c s ih =>
    by_cases somewhere : ∃ reference, StandsAt (c :: s) reference
    · obtain ⟨reference, stands⟩ := somewhere
      obtain ⟨-, rest, split, -⟩ := id stands
      have behind := placesFrom_of_standsAt (split ▸ stands) column
      rw [← split, placesFrom, standing_eq stands, List.map_singleton, List.singleton_append,
        List.cons_inj_right] at behind
      rw [placesFrom, standing_eq stands, List.map_singleton, List.singleton_append]
      refine List.Pairwise.cons (fun next mem => ?_) (ih (column + 1))
      rw [behind] at mem
      obtain ⟨skipped, eq, -⟩ := mem_placesFrom_iff.1 mem
      exact Nat.le.intro eq.symm
    · rw [placesFrom, standing_eq_nil (not_exists.1 somewhere)]
      exact ih (column + 1)

/-- The search finds just the places where references stand. -/
theorem mem_places_iff {line : Text} {place : Place} :
    place ∈ places line ↔ StandsAt (line.drop place.column) place.reference := by
  simp [places, mem_placesFrom_iff]

/-- The places that are found do not overlap. -/
theorem pairwise_places (line : Text) :
    (places line).Pairwise fun place next =>
      place.column + place.reference.written.length ≤ next.column :=
  pairwise_placesFrom 0 line

/-! ## What the scan finds -/

/-- What is cut off is a reference that stands there. -/
theorem standsAt_of_cut (cut : cut? s = some (reference, rest)) :
    s = reference.written ++ rest ∧ StandsAt s reference := by
  obtain ⟨known, split, shape⟩ := cut?_eq_some cut
  refine ⟨split, known, rest, split, ?_⟩
  exact shape.symm.imp_right (And.imp_right endsName_iff.1)

/-- Where nothing is cut off, no way to write a reference fits. -/
theorem not_standsAt_of_not_cut (uncut : cut? s = none) : ¬ StandsAt s reference := by
  rintro ⟨known, rest, split, shape⟩
  have one := List.findSome?_eq_none_iff.1 uncut _ known
  rw [Option.map_eq_none_iff, cutOne?] at one
  split at one
  · contradiction
  · rename_i notBare
    rw [Option.map_eq_none_iff] at one
    rcases shape with braced | ⟨bare, ends⟩
    · rw [Text.dropStart?_eq_some_iff.2 (braced ▸ split)] at one
      contradiction
    · rw [Text.dropStart?_eq_some_iff.2 (bare ▸ split),
        Option.filter_some_pos (endsName_iff.2 ends)] at notBare
      contradiction

/-- The scan goes on behind a reference that it finds, and finds the one reference of each place. -/
theorem inLine_eq_placesFrom (s : Text) (column : Nat) :
    inLine s = (placesFrom column s).map Place.reference := by
  fun_induction inLine s generalizing column with
  | case1 => rfl
  | case2 c s reference rest cut ih =>
    obtain ⟨split, stands⟩ := standsAt_of_cut cut
    rw [split] at stands ⊢
    rw [placesFrom_of_standsAt stands, List.map_cons, ← ih]
  | case3 c s uncut ih =>
    rw [placesFrom, standing_eq_nil fun _ => not_standsAt_of_not_cut uncut]
    exact ih (column + 1)

/-- The references of a line are those at its places, in order. -/
theorem inLine_eq_places (line : Text) : inLine line = (places line).map Place.reference :=
  inLine_eq_placesFrom line 0

end Standing

/-! ## Corrections -/

/-- What is written of a reference, and the variable that was meant; in the order in which the
entries are made. -/
def corrections : List (Text × Text) :=
  alternatives.map fun reference => (reference.written, reference.typo.meant)

/-- The last entry for what is written, if there is one. -/
def correction? (written : Text) : Option Text := corrections.reverse.lookup written

/-- The warnings for the text of a file, line by line and column by column. -/
def placeWarnings (path text : Text) : List Text :=
  ((Text.lines text).zipIdx 1).flatMap fun (line, number) =>
    (places line).map fun place => warning path number place.reference

/-- The warnings for the text of a file, if each reference that is found is looked up, and passed
over if the corrections do not have it. -/
def correctedWarnings (path text : Text) : List Text :=
  ((Text.lines text).zipIdx 1).flatMap fun (line, number) =>
    (inLine line).filterMap fun reference => (correction? reference.written).map fun meant =>
      path ++ ":".toList ++ Text.ofNat number ++ ": ".toList ++ reference.written ++
        " could be a misspelling of ".toList ++ meant

theorem correction?_of_mem {reference : Reference} (mem : reference ∈ alternatives) :
    correction? reference.written = some reference.typo.meant := by
  have known : ∀ reference ∈ alternatives,
      correction? reference.written = some reference.typo.meant := by decide
  exact known reference mem

/-- Every reference that is found has its correction in the table. -/
theorem correction?_of_mem_inLine {line : Text} {reference : Reference}
    (mem : reference ∈ inLine line) :
    correction? reference.written = some reference.typo.meant := by
  rw [inLine_eq_places] at mem
  obtain ⟨place, here, rfl⟩ := List.mem_map.1 mem
  have stands := mem_standing_iff.2 (mem_places_iff.1 here)
  exact correction?_of_mem (List.mem_filter.1 stands).1

/-- The warnings spelled out place by place are those that are given. -/
theorem placeWarnings_eq (path text : Text) : placeWarnings path text = warnings path text := by
  refine List.flatMap_congr fun (line, number) _ => ?_
  dsimp only
  rw [inLine_eq_places, List.map_map]
  rfl

/-- The warnings spelled out with the table are those that are given. -/
theorem correctedWarnings_eq (path text : Text) :
    correctedWarnings path text = warnings path text := by
  refine List.flatMap_congr fun (line, number) _ => ?_
  dsimp only
  rw [← List.filterMap_eq_map]
  refine List.filterMap_congr fun reference mem => ?_
  rw [correction?_of_mem_inLine mem]
  rfl

end VariableTypo

namespace Inspection

open VariableTypo

/-- What is said of files, in the order in which they were accepted: on each line, column by column,
of each reference to a variable of the table that stands there. One way to write it fits at most, no
reference overlaps the next, and the corrections have each one that is found. -/
theorem check_variables {σ : Type} (launch : Launcher σ) (accepted : List Candidate) (state : σ) :
    (⟨.scan .variables, accepted⟩ : Inspection).check launch state =
        (.ok (accepted.flatMap fun file => placeWarnings file.path file.text), state) ∧
      (⟨.scan .variables, accepted⟩ : Inspection).check launch state =
        (.ok (accepted.flatMap fun file => correctedWarnings file.path file.text), state) ∧
      (∀ s reference other, StandsAt s reference → StandsAt s other → reference = other) ∧
      ∀ line,
        (∀ place, place ∈ places line ↔ StandsAt (line.drop place.column) place.reference) ∧
        ((places line).Pairwise fun place next =>
          place.column + place.reference.written.length ≤ next.column) ∧
        ∀ reference ∈ inLine line, correction? reference.written = some reference.typo.meant := by
  have checked := check_scan launch state
    (rfl : (⟨.scan .variables, accepted⟩ : Inspection).checker = .scan .variables)
  refine ⟨?_, ?_, fun s reference other => StandsAt.unique, fun line =>
    ⟨fun place => mem_places_iff, pairwise_places line, fun _ => correction?_of_mem_inLine⟩⟩
  · simp only [placeWarnings_eq]
    exact checked
  · simp only [correctedWarnings_eq]
    exact checked

/-! ## Dollar signs and braces side by side -/

/-- The scan of a page on which references stand side by side, with stray signs and names that go
on between them. -/
def jammed : Inspection :=
  ⟨.scan .variables, [{ Candidate.ofPaths "/t/0".toList "README".toList with
    contents := some
      "$HOEM$\x7bJAVE_HOME\x7d$PAHTS\n$$PAHT\x7d $\x7b$CLASPATH \x7bPAHT\x7d".toList }]⟩

/-- References side by side and in braces: each is reported once. -/
theorem check_jammed :
    jammed.check (fun _ launches => (.ok ⟨0, []⟩, launches + 1)) 0 =
      (.ok ["README:1: $HOEM could be a misspelling of HOME".toList,
        "README:1: $\x7bJAVE_HOME\x7d could be a misspelling of JAVA_HOME".toList,
        "README:2: $PAHT could be a misspelling of PATH".toList,
        "README:2: $CLASPATH could be a misspelling of CLASSPATH".toList], 0) := by
  refine (check_variables (fun _ launches => (.ok ⟨0, []⟩, launches + 1))
    jammed.accepted 0).1.trans ?_
  cbv

end Inspection

end CheckoutLint
