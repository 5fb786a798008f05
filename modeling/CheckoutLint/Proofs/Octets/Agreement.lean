import CheckoutLint.Proofs.Octets.Reading
import CheckoutLint.Proofs.Octets.Scan
import Mathlib

/-!
Scans of a text against scans of the bytes it was read from. What the scans look for is ASCII, and
what ends a line or a word is told by characters of ASCII, so a text and the bytes that it reads
look alike to them: characters that stand for malformed bytes are passed over just as these are.

* `Reads.lines`: a text and its bytes have the same lines.
* `Reads.acronyms`, `Reads.references`: a line and its bytes hold the same findings.
* `acronymWarnings_decodeLossy`, `variableWarnings_decodeLossy`: a file gives the same warnings.
-/

namespace CheckoutLint

open Text (Reads)

/-! ## Characters -/

/-- The blanks by their numbers. -/
theorem isAsciiBlank_eq (c : Char) :
    isAsciiBlank c = ((9 ≤ c.toNat && c.toNat ≤ 13) || c.toNat = 32) := by
  rw [Bool.eq_iff_iff]
  simp only [isAsciiBlank, Bool.or_eq_true, Bool.and_eq_true, decide_eq_true_eq, Char.le_def,
    UInt32.le_iff_toNat_le, ← Char.toNat_inj]
  rfl

/-- The characters of names by their numbers. -/
theorem isNameChar_eq (c : Char) :
    VariableTypo.isNameChar c = ((48 ≤ c.toNat && c.toNat ≤ 57) || (65 ≤ c.toNat && c.toNat ≤ 90) ||
      (97 ≤ c.toNat && c.toNat ≤ 122) || c.toNat = 95) := by
  rw [Bool.eq_iff_iff]
  simp only [VariableTypo.isNameChar, Char.isAlphanum, Char.isAlpha, Char.isUpper, Char.isLower,
    Char.isDigit, Bool.or_eq_true, Bool.and_eq_true, decide_eq_true_eq, ge_iff_le,
    UInt32.le_iff_toNat_le, ← Char.toNat_inj]
  simp only [Char.toNat]
  tauto

theorem isAsciiBlank_of_foreign {c : Char} (h : 128 ≤ c.toNat) : isAsciiBlank c = false := by
  rw [isAsciiBlank_eq, Bool.eq_false_iff]
  simp only [ne_eq, Bool.or_eq_true, Bool.and_eq_true, decide_eq_true_eq]
  omega

theorem isNameChar_of_foreign {c : Char} (h : 128 ≤ c.toNat) :
    VariableTypo.isNameChar c = false := by
  rw [isNameChar_eq, Bool.eq_false_iff]
  simp only [ne_eq, Bool.or_eq_true, Bool.and_eq_true, decide_eq_true_eq]
  omega

theorem Octets.isBlank_of_foreign {b : UInt8} (h : 128 ≤ b.toNat) : isBlank b = false := by
  rw [isBlank, Bool.eq_false_iff]
  simp only [ne_eq, Bool.or_eq_true, Bool.and_eq_true, decide_eq_true_eq]
  omega

theorem Octets.isNameByte_of_foreign {b : UInt8} (h : 128 ≤ b.toNat) : isNameByte b = false := by
  rw [isNameByte, Bool.eq_false_iff]
  simp only [ne_eq, Bool.or_eq_true, Bool.and_eq_true, decide_eq_true_eq]
  omega

theorem isAsciiBlank_ofByte (b : UInt8) : isAsciiBlank (Char.ofNat b.toNat) = Octets.isBlank b := by
  rw [isAsciiBlank_eq, Text.toNat_ofByte, Octets.isBlank]

theorem isNameChar_ofByte (b : UInt8) :
    VariableTypo.isNameChar (Char.ofNat b.toNat) = Octets.isNameByte b := by
  rw [isNameChar_eq, Text.toNat_ofByte, Octets.isNameByte]

/-! ## Results side by side -/

/-- The same finding, and what is left of the text reads what is left of the bytes. -/
def SameCut {α : Type} (cut : α × Text) (cut' : α × List UInt8) : Prop :=
  cut.1 = cut'.1 ∧ Reads cut.2 cut'.2

section Rel

variable {α α' β β' γ : Type} {r : α → α' → Prop} {q : β → β' → Prop}

theorem rel_map {o : Option α} {o' : Option α'} {f : α → β} {g : α' → β'}
    (rel : Option.Rel r o o') (step : ∀ a a', r a a' → q (f a) (g a')) :
    Option.Rel q (o.map f) (o'.map g) := by
  cases rel with
  | some h => exact .some (step _ _ h)
  | none => exact .none

/-- Readings that agree, followed by readings that agree, agree. -/
theorem rel_bind {o : Option α} {o' : Option α'} {f : α → Option β} {g : α' → Option β'}
    (rel : Option.Rel r o o') (step : ∀ a a', r a a' → Option.Rel q (f a) (g a')) :
    Option.Rel q (o.bind f) (o'.bind g) := by
  cases rel with
  | some h => exact step _ _ h
  | none => exact .none

/-- First successes agree if all attempts do. -/
theorem rel_findSome? {items : List γ} {f : γ → Option β} {g : γ → Option β'}
    (step : ∀ a ∈ items, Option.Rel q (f a) (g a)) :
    Option.Rel q (items.findSome? f) (items.findSome? g) := by
  induction items with
  | nil => exact .none
  | cons a items ih =>
    have first := step a List.mem_cons_self
    have others := ih fun b mem => step b (List.mem_cons_of_mem _ mem)
    rw [List.findSome?_cons, List.findSome?_cons]
    generalize f a = o at first
    generalize g a = o' at first
    cases first with
    | some h => exact .some h
    | none => exact others

end Rel

namespace Text

/-- Texts of ASCII alone. -/
def IsAscii (s : Text) : Prop := ∀ c ∈ s, c.toNat < 128

instance (s : Text) : Decidable (IsAscii s) :=
  List.decidableBAll (fun c : Char => c.toNat < 128) s

theorem IsAscii.append {s t : Text} (first : IsAscii s) (second : IsAscii t) :
    IsAscii (s ++ t) := by
  intro c mem
  exact (List.mem_append.1 mem).elim (first c) (second c)

namespace Reads

/-! ## Beginnings -/

/-- A text and its bytes begin with the same words of ASCII, and go on alike behind them. -/
theorem dropStart? {word s : Text} {bytes : List UInt8} (reads : Reads s bytes)
    (ascii : IsAscii word) :
    Option.Rel Reads (Text.dropStart? word s) (Octets.dropStart? word bytes) := by
  induction word generalizing s bytes with
  | nil => exact .some reads
  | cons c word ih =>
    have first := ascii c List.mem_cons_self
    have others : IsAscii word := fun d mem => ascii d (List.mem_cons_of_mem _ mem)
    cases reads with
    | nil => exact .none
    | @ascii b s bytes low reads =>
      have same : c = Char.ofNat b.toNat ↔ c.toNat = b.toNat := by
        rw [← Char.toNat_inj, toNat_ofByte]
      simp only [Text.dropStart?, Octets.dropStart?, same]
      split
      · exact ih reads others
      · exact .none
    | @foreign d b s bytes char byte reads =>
      have apart : c ≠ d := by
        rintro rfl
        omega
      rw [Text.dropStart?, Octets.dropStart?, if_neg apart, if_neg (by omega)]
      exact .none
    | @joined d b s bytes char byte reads =>
      have apart : c ≠ d := by
        rintro rfl
        omega
      rw [Text.dropStart?, Octets.dropStart?, if_neg apart, if_neg (by omega)]
      exact .none

/-! ## Acronyms -/

/-- A word ends alike in a text and in the bytes it reads. -/
theorem afterWord? {s : Text} {bytes : List UInt8} (reads : Reads s bytes) :
    Option.Rel Reads (Acronym.afterWord? s) (Octets.afterWord? bytes) := by
  cases reads with
  | nil => exact .some .nil
  | @ascii b s bytes low reads =>
    rw [Acronym.afterWord?, Octets.afterWord?, isAsciiBlank_ofByte]
    split
    · exact .some reads
    · exact .none
  | foreign char byte _ | joined char byte _ =>
    rw [Acronym.afterWord?, Octets.afterWord?, isAsciiBlank_of_foreign char,
      Octets.isBlank_of_foreign byte]
    exact .none

/-- An acronym is cut off alike in a text and in the bytes it reads. -/
theorem cutAcronym? {s : Text} {bytes : List UInt8} (reads : Reads s bytes) :
    Option.Rel SameCut (Acronym.cut? s) (Octets.cutAcronym? bytes) := by
  have ascii : ∀ acronym ∈ Acronym.all, IsAscii acronym.written := by decide
  apply rel_findSome?
  intro acronym mem
  have start := reads.dropStart? (ascii acronym mem)
  refine rel_map (rel_bind start fun _ _ behind => behind.afterWord?) ?_
  exact fun _ _ behind => ⟨rfl, behind⟩

/-- A line and its bytes hold the same acronyms, if all that is left of them does. -/
theorem acronyms_of_inRest {s : Text} {bytes : List UInt8} (reads : Reads s bytes)
    (inRest : ∀ s' bytes', bytes'.length ≤ bytes.length → Reads s' bytes' →
      Acronym.inRest s' = Octets.acronymsInRest bytes') :
    Acronym.inLine s = Octets.acronyms bytes := by
  have cut := reads.cutAcronym?
  have shorter (acronym : Acronym) (rest : List UInt8)
      (h : Octets.cutAcronym? bytes = some (acronym, rest)) : rest.length ≤ bytes.length :=
    Octets.length_le_of_cutAcronym h
  rw [Acronym.inLine, Octets.acronyms]
  generalize Acronym.cut? s = found at cut
  generalize Octets.cutAcronym? bytes = found' at cut shorter
  cases cut with
  | @some found found' same =>
    obtain ⟨acronym, rest⟩ := found
    obtain ⟨acronym', rest'⟩ := found'
    obtain ⟨rfl, behind⟩ := same
    exact congrArg (acronym :: ·) (inRest _ _ (shorter _ _ rfl) behind)
  | none => exact inRest s bytes (Nat.le_refl _) reads

/-- The induction is on the number of bytes: a finding consumes several at once. -/
theorem acronymsInRest {s : Text} {bytes : List UInt8} (reads : Reads s bytes) :
    Acronym.inRest s = Octets.acronymsInRest bytes := by
  generalize count : bytes.length = n
  induction n using Nat.strongRecOn generalizing s bytes with
  | ind n ih =>
    subst count
    cases reads with
    | nil => rw [Acronym.inRest, Octets.acronymsInRest]
    | @ascii b s bytes low reads =>
      have inRest (s' : Text) (bytes' : List UInt8) (short : bytes'.length ≤ bytes.length)
          (reads' : Reads s' bytes') : Acronym.inRest s' = Octets.acronymsInRest bytes' :=
        ih _ (Nat.lt_succ_of_le short) reads' rfl
      rw [Acronym.inRest_cons, Octets.acronymsInRest_cons, isAsciiBlank_ofByte,
        reads.acronyms_of_inRest inRest, inRest s bytes (Nat.le_refl _) reads]
    | @foreign c b s bytes char byte reads =>
      rw [Acronym.inRest_cons, Octets.acronymsInRest_cons, isAsciiBlank_of_foreign char,
        Octets.isBlank_of_foreign byte]
      exact ih _ (Nat.lt_succ_self _) reads rfl
    | @joined c b s bytes char byte reads =>
      rw [Octets.acronymsInRest_cons, Octets.isBlank_of_foreign byte]
      exact ih _ (Nat.lt_succ_self _) reads rfl

/-- The acronyms of a text are those of the bytes it reads. -/
theorem acronyms {s : Text} {bytes : List UInt8} (reads : Reads s bytes) :
    Acronym.inLine s = Octets.acronyms bytes :=
  reads.acronyms_of_inRest fun _ _ _ reads' => reads'.acronymsInRest

/-! ## Misspelled variables -/

/-- A name ends alike in a text and in the bytes it reads. -/
theorem endsName {s : Text} {bytes : List UInt8} (reads : Reads s bytes) :
    VariableTypo.endsName s = Octets.endsName bytes := by
  cases reads with
  | nil => rfl
  | ascii low reads => rw [VariableTypo.endsName, Octets.endsName, isNameChar_ofByte]
  | foreign char byte _ | joined char byte _ =>
    rw [VariableTypo.endsName, Octets.endsName, isNameChar_of_foreign char,
      Octets.isNameByte_of_foreign byte]

/-- A reference to a variable is cut off alike in a text and in the bytes it reads. -/
theorem cutReferenceTo? {s : Text} {bytes : List UInt8} (reads : Reads s bytes)
    {typo : VariableTypo} (ascii : IsAscii typo.written) :
    Option.Rel SameCut (typo.cutOne? s) (Octets.cutReferenceTo? typo bytes) := by
  have mark : IsAscii ['$'] ∧ IsAscii "$\x7b".toList ∧ IsAscii "\x7d".toList := by decide
  have bare : IsAscii typo.bare := mark.1.append ascii
  have braced : IsAscii typo.braced := (mark.2.1.append ascii).append mark.2.2
  have start := reads.dropStart? bare
  have inBraces : Option.Rel SameCut ((Text.dropStart? typo.braced s).map (typo.braced, ·))
      ((Octets.dropStart? typo.braced bytes).map (typo.braced, ·)) :=
    rel_map (reads.dropStart? braced) fun _ _ behind => ⟨rfl, behind⟩
  rw [VariableTypo.cutOne?, Octets.cutReferenceTo?]
  generalize Text.dropStart? typo.bare s = left at start
  generalize Octets.dropStart? typo.bare bytes = left' at start
  cases start with
  | @some rest rest' behind =>
    rw [Option.filter_some, Option.filter_some, behind.endsName]
    cases Octets.endsName rest' with
    | true => exact .some ⟨rfl, behind⟩
    | false => exact inBraces
  | none => exact inBraces

/-- So is a reference to any variable of the table. -/
theorem cutReference? {s : Text} {bytes : List UInt8} (reads : Reads s bytes) :
    Option.Rel SameCut (VariableTypo.cut? s) (Octets.cutReference? bytes) := by
  have ascii : ∀ typo ∈ VariableTypo.all, IsAscii typo.written := by decide
  apply rel_findSome?
  intro typo mem
  refine rel_map (reads.cutReferenceTo? (ascii typo mem)) ?_
  rintro ⟨written, rest⟩ ⟨written', rest'⟩ ⟨rfl, behind⟩
  exact ⟨rfl, behind⟩

/-- No reference begins with a character that is not ASCII. -/
theorem cut?_of_foreign {c : Char} {s : Text} (char : 128 ≤ c.toNat) :
    VariableTypo.cut? (c :: s) = none := by
  rw [Option.eq_none_iff_forall_ne_some]
  rintro ⟨reference, rest⟩ cut
  obtain ⟨-, split, written⟩ := VariableTypo.cut?_eq_some cut
  have dollar : c = '$' := by
    rcases written with ⟨eq, -⟩ | eq
    · rw [eq] at split
      exact (List.cons.inj split).1
    · rw [eq] at split
      exact (List.cons.inj split).1
  subst dollar
  exact absurd char (by decide)

/-- No reference begins with what is not ASCII. -/
theorem cutReference?_of_foreign {c : Char} {b : UInt8} {s : Text} {bytes : List UInt8}
    (reads : Reads (c :: s) (b :: bytes)) (char : 128 ≤ c.toNat) :
    Octets.cutReference? (b :: bytes) = none := by
  have cut := reads.cutReference?
  rw [cut?_of_foreign char] at cut
  generalize Octets.cutReference? (b :: bytes) = found at cut
  cases cut
  rfl

/-- The induction is on the number of bytes: a reference consumes several at once. -/
theorem references {s : Text} {bytes : List UInt8} (reads : Reads s bytes) :
    VariableTypo.inLine s = Octets.references bytes := by
  generalize count : bytes.length = n
  induction n using Nat.strongRecOn generalizing s bytes with
  | ind n ih =>
    subst count
    cases reads with
    | nil => rw [VariableTypo.inLine, Octets.references]
    | @ascii b s bytes low reads =>
      have cut := (Reads.ascii low reads).cutReference?
      generalize found : VariableTypo.cut? (Char.ofNat b.toNat :: s) = cutOff at cut
      generalize found' : Octets.cutReference? (b :: bytes) = cutOff' at cut
      cases cut with
      | none =>
        rw [VariableTypo.inLine_of_not_cut found, Octets.references_of_not_cut found']
        exact ih _ (Nat.lt_succ_self _) reads rfl
      | @some cutOff cutOff' same =>
        obtain ⟨reference, rest⟩ := cutOff
        obtain ⟨reference', rest'⟩ := cutOff'
        obtain ⟨rfl, behind⟩ := same
        rw [VariableTypo.inLine_of_cut found, Octets.references_of_cut found',
          ih _ (Octets.length_lt_of_cutReference found') behind rfl]
    | @foreign c b s bytes char byte reads =>
      have uncut := (Reads.foreign char byte reads).cutReference?_of_foreign char
      rw [VariableTypo.inLine_of_not_cut (cut?_of_foreign char),
        Octets.references_of_not_cut uncut]
      exact ih _ (Nat.lt_succ_self _) reads rfl
    | @joined c b s bytes char byte reads =>
      have uncut := (Reads.joined char byte reads).cutReference?_of_foreign char
      rw [Octets.references_of_not_cut uncut]
      exact ih _ (Nat.lt_succ_self _) reads rfl

/-! ## Lines -/

/-- Lines with an item in front of the first of them. -/
def inFront {α : Type} (a : α) : List (List α) → List (List α)
  | [] => [[a]]
  | line :: rest => (a :: line) :: rest

theorem forall₂_inFront {c : Char} {b : UInt8} {texts : List Text} {lines : List (List UInt8)}
    (same : List.Forall₂ Reads texts lines)
    (grow : ∀ s bytes, Reads s bytes → Reads (c :: s) (b :: bytes)) :
    List.Forall₂ Reads (inFront c texts) (inFront b lines) := by
  cases same with
  | nil => exact .cons (grow [] [] .nil) .nil
  | cons first others => exact .cons (grow _ _ first) others

/-- A character that ends no line belongs to the first one. -/
theorem lines_eq_inFront {c : Char} {s : Text} (hn : c ≠ '\n')
    (hr : c = '\r' → s.head? ≠ some '\n') : Text.lines (c :: s) = inFront c (Text.lines s) := by
  rw [Text.lines_cons_of_not_end hn hr]
  cases Text.lines s <;> rfl

/-- A byte that ends no line belongs to the first one. -/
theorem octets_lines_eq_inFront {b : UInt8} {bytes : List UInt8} (hn : b ≠ 0x0A)
    (hr : b = 0x0D → bytes.head? ≠ some 0x0A) :
    Octets.lines (b :: bytes) = inFront b (Octets.lines bytes) := by
  rw [Octets.lines_cons_of_not_end hn hr]
  cases Octets.lines bytes <;> rfl

theorem head?_newline_iff {s : Text} {bytes : List UInt8} (reads : Reads s bytes) :
    s.head? = some '\n' ↔ bytes.head? = some 0x0A := by
  cases reads with
  | nil => simp
  | @ascii b s bytes low reads =>
    rw [List.head?_cons, List.head?_cons, Option.some.injEq, Option.some.injEq, ← Char.toNat_inj,
      ← UInt8.toNat_inj, toNat_ofByte]
    rfl
  | @foreign c b s bytes char byte reads | @joined c b s bytes char byte reads =>
    rw [List.head?_cons, List.head?_cons, Option.some.injEq, Option.some.injEq, ← Char.toNat_inj,
      ← UInt8.toNat_inj]
    have newline : '\n'.toNat = 10 := rfl
    have feed : (0x0A : UInt8).toNat = 10 := rfl
    omega

/-- What is not ASCII ends no line. -/
theorem lines_of_foreign {c : Char} {s : Text} (char : 128 ≤ c.toNat) :
    Text.lines (c :: s) = inFront c (Text.lines s) := by
  apply lines_eq_inFront
  · rintro rfl
    exact absurd char (by decide)
  · rintro rfl
    exact absurd char (by decide)

theorem octets_lines_of_foreign {b : UInt8} {bytes : List UInt8} (byte : 128 ≤ b.toNat) :
    Octets.lines (b :: bytes) = inFront b (Octets.lines bytes) := by
  apply octets_lines_eq_inFront
  · rintro rfl
    exact absurd byte (by decide)
  · rintro rfl
    exact absurd byte (by decide)

theorem ofByte_eq_iff {b d : UInt8} : Char.ofNat b.toNat = Char.ofNat d.toNat ↔ b = d := by
  rw [← Char.toNat_inj, toNat_ofByte, toNat_ofByte, UInt8.toNat_inj]

/-- A text and its bytes have the same lines. -/
theorem lines {s : Text} {bytes : List UInt8} (reads : Reads s bytes) :
    List.Forall₂ Reads (Text.lines s) (Octets.lines bytes) := by
  induction reads with
  | nil => exact .nil
  | @ascii b s bytes low reads ih =>
    have feed : Char.ofNat b.toNat = '\n' ↔ b = 0x0A := ofByte_eq_iff (d := 0x0A)
    have carriage : Char.ofNat b.toNat = '\r' ↔ b = 0x0D := ofByte_eq_iff (d := 0x0D)
    by_cases ends : b = 0x0A
    · subst ends
      exact .cons .nil ih
    by_cases dropped : b = 0x0D ∧ bytes.head? = some 0x0A
    · -- The two bytes end a line just as the second alone does.
      obtain ⟨rfl, next⟩ := dropped
      obtain ⟨s, rfl⟩ := List.head?_eq_some_iff.1 (reads.head?_newline_iff.2 next)
      obtain ⟨bytes, rfl⟩ := List.head?_eq_some_iff.1 next
      exact ih
    · rw [not_and] at dropped
      rw [lines_eq_inFront (mt feed.1 ends)
          fun eq => mt reads.head?_newline_iff.1 (dropped (carriage.1 eq)),
        octets_lines_eq_inFront ends dropped]
      exact forall₂_inFront ih fun _ _ line => .ascii low line
  | @foreign c b s bytes char byte reads ih =>
    rw [lines_of_foreign char, octets_lines_of_foreign byte]
    exact forall₂_inFront ih fun _ _ line => .foreign char byte line
  | @joined c b s bytes char byte reads ih =>
    rw [octets_lines_of_foreign byte]
    rw [lines_of_foreign char] at ih ⊢
    generalize Octets.lines bytes = read at ih
    cases known : Text.lines s with
    | nil =>
      rw [known] at ih
      cases ih with
      | cons first others => exact .cons (.joined char byte first) others
    | cons line rest =>
      rw [known] at ih
      cases ih with
      | cons first others => exact .cons (.joined char byte first) others

end Reads

end Text

/-! ## Warnings -/

/-- Lines that read one another, searched by functions that find the same in them, give the same
warnings under the same numbers. -/
theorem flatMap_zipIdx_eq {α : Type} {texts : List Text} {lines : List (List UInt8)}
    {find : Text → List α} {find' : List UInt8 → List α}
    (same : List.Forall₂ Reads texts lines)
    (found : ∀ s bytes, Reads s bytes → find s = find' bytes) (warning : Nat → α → Text)
    (number : Nat) :
    ((texts.zipIdx number).flatMap fun (line, number) => (find line).map (warning number)) =
      (lines.zipIdx number).flatMap fun (line, number) => (find' line).map (warning number) := by
  induction same generalizing number with
  | nil => rfl
  | cons first _ ih =>
    rw [List.zipIdx_cons, List.zipIdx_cons, List.flatMap_cons, List.flatMap_cons, ih (number + 1)]
    dsimp only
    rw [found _ _ first]

/-- The acronym scan of a decoded text is that of its bytes. -/
theorem acronymWarnings_decodeLossy (path : Text) (bytes : List UInt8) :
    Acronym.warnings path (Text.decodeLossy bytes) = Octets.acronymWarnings path bytes :=
  flatMap_zipIdx_eq (Text.reads_decodeLossy bytes).lines (fun _ _ reads => reads.acronyms)
    (Acronym.warning path) 1

/-- The variable scan of a decoded text is that of its bytes. -/
theorem variableWarnings_decodeLossy (path : Text) (bytes : List UInt8) :
    VariableTypo.warnings path (Text.decodeLossy bytes) = Octets.variableWarnings path bytes :=
  flatMap_zipIdx_eq (Text.reads_decodeLossy bytes).lines (fun _ _ reads => reads.references)
    (VariableTypo.warning path) 1

end CheckoutLint
