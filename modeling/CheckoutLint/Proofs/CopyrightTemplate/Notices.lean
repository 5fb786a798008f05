import CheckoutLint.Inspection
import CheckoutLint.Proofs.Text.Pattern
import Mathlib

/-!
Unfilled copyright notices, and the pattern with three alternatives by which they are searched. The
scan takes as many blanks as there are and a comma if there is one, and never has to go back: what
must follow begins with a letter. The pattern is read with the case of Unicode left aside, and no
letter of it has a counterpart outside of ASCII.

* `IsNotice`, `noticeAt_iff`: what a notice is, and where the scan sees one.
* `isNotice_iff_spelled`: notices are what the alternatives spell.
* `IsCaseFolding`, `IsCaseFolding.fold_eq_iff`: case folding, as far as the pattern depends on it.
* `check_copyright`: which files are flagged.
-/

namespace CheckoutLint

namespace CopyrightTemplate

open Text Text.Piece

/-! ## Notices -/

/-- A text that is a word but for the case of its ASCII letters. The word is in lower case. -/
def ReadsLike (word s : Text) : Prop := s.map Char.toLower = word

/-- The mark between the word and the year: nothing, or a sign and any number of blanks. -/
def IsMark (s : Text) : Prop :=
  s = [] ∨ ∃ sign blanks, s = sign ++ blanks ∧
    (ReadsLike "(c)".toList sign ∨ sign = "©".toList) ∧ ∀ c ∈ blanks, isBlank c = true

/-- The placeholders for a year and a name, with at most one comma and any number of blanks between
them. -/
def IsPlaceholders (s : Text) : Prop :=
  ∃ year comma blanks name, s = year ++ (comma ++ (blanks ++ name)) ∧
    ReadsLike "year".toList year ∧ (comma = [] ∨ comma = ",".toList) ∧
    (∀ c ∈ blanks, isBlank c = true) ∧ ReadsLike "fullname".toList name

/-- An unfilled notice: the word and one space, a mark, the placeholders. -/
def IsNotice (s : Text) : Prop :=
  ∃ word mark fields, s = word ++ (mark ++ fields) ∧
    ReadsLike "copyright ".toList word ∧ IsMark mark ∧ IsPlaceholders fields

/-- A text with an unfilled notice somewhere in it. -/
def HasNotice (s : Text) : Prop :=
  ∃ before notice after, s = before ++ (notice ++ after) ∧ IsNotice notice

/-! ## The scan -/

section Scan

variable {word s rest mark fields : Text} {c : Char}

theorem bounds_of_isUpper (upper : c.isUpper = true) : 65 ≤ c.toNat ∧ c.toNat ≤ 90 := by
  simpa [Char.isUpper, UInt32.le_iff_toNat_le, ← Char.toNat_val] using upper

/-- Case does not matter for being blank, since no letter is. -/
theorem isBlank_toLower (c : Char) : isBlank c.toLower = isBlank c := by
  by_cases upper : c.isUpper
  · have letters : ∀ n ∈ List.range' 65 26,
        isBlank (Char.ofNat n).toLower = isBlank (Char.ofNat n) := by
      decide
    have bounds := bounds_of_isUpper upper
    have same := letters c.toNat (List.mem_range'_1.2 (by omega))
    rwa [Char.ofNat_toNat] at same
  · rw [Char.toLower_eq_of_not_isUpper upper]

/-- A character that is no letter is read as it stands. -/
theorem toLower_eq_iff {d : Char} (noLetter : c.isAlpha = false) : d.toLower = c ↔ d = c := by
  constructor
  · rintro rfl
    rw [Char.isAlpha_toLower_eq_isAlpha, Char.isAlpha, Bool.or_eq_false_iff] at noLetter
    exact (Char.toLower_eq_of_not_isUpper (by simp [noLetter.1])).symm
  · rintro rfl
    rw [Char.isAlpha, Bool.or_eq_false_iff] at noLetter
    exact Char.toLower_eq_of_not_isUpper (by simp [noLetter.1])

/-- A word is read letter by letter, each in either case. -/
theorem readsLike_cons_iff :
    ReadsLike (c :: word) s ↔ ∃ d t, s = d :: t ∧ d.toLower = c ∧ ReadsLike word t :=
  List.map_eq_cons_iff

/-- The copyright sign is read as itself alone. -/
theorem readsLike_sign_iff : ReadsLike "©".toList s ↔ s = "©".toList := by
  have empty (t : Text) : ReadsLike [] t ↔ t = [] := List.map_eq_nil_iff
  have single : ReadsLike ['©'] s ↔ s = ['©'] := by
    simp [readsLike_cons_iff, toLower_eq_iff (c := '©') rfl, empty]
  exact single

/-- A word that is cut off is one that reads like it. -/
theorem dropFolded?_eq_some_iff :
    dropFolded? word s = some rest ↔ ∃ written, s = written ++ rest ∧ ReadsLike word written := by
  induction word generalizing s with
  | nil => simp [dropFolded?, ReadsLike]
  | cons c word ih =>
    simp only [readsLike_cons_iff]
    cases s with
    | nil => simp [dropFolded?]
    | cons d s =>
      rw [dropFolded?]
      constructor
      · intro found
        split at found
        · rename_i same
          obtain ⟨written, rfl, reads⟩ := ih.1 found
          exact ⟨d :: written, rfl, d, written, rfl, same, reads⟩
        · cases found
      · rintro ⟨_, split, e, written, rfl, same, reads⟩
        obtain ⟨rfl, rfl⟩ := List.cons.inj split
        rw [if_pos same]
        exact ih.2 ⟨written, rfl, reads⟩

theorem dropFolded?_append {written : Text} (reads : ReadsLike word written) (rest : Text) :
    dropFolded? word (written ++ rest) = some rest :=
  dropFolded?_eq_some_iff.2 ⟨written, rfl, reads⟩

theorem dropFolded?_of_head_ne {d : Char} (other : d.toLower ≠ c) (word s : Text) :
    dropFolded? (c :: word) (d :: s) = none := by
  rw [dropFolded?, if_neg other]

theorem trimStart_append {blanks : Text} (blank : ∀ c ∈ blanks, isBlank c = true)
    (head : ∀ c ∈ s.head?, isBlank c = false) : trimStart (blanks ++ s) = s := by
  rw [trimStart, List.dropWhile_append_of_pos blank]
  exact trimStart_eq_self_iff.2 head

theorem exists_blanks (s : Text) :
    ∃ blanks, s = blanks ++ trimStart s ∧ ∀ c ∈ blanks, isBlank c = true :=
  ⟨s.takeWhile isBlank, List.takeWhile_append_dropWhile.symm, fun _ => List.mem_takeWhile_imp⟩

/-- What is skipped as a comma is one comma or nothing. -/
theorem exists_comma (s : Text) :
    ∃ comma, s = comma ++ dropComma s ∧ (comma = [] ∨ comma = ",".toList) := by
  rw [dropComma.eq_def]
  split
  · exact ⟨",".toList, rfl, .inr rfl⟩
  · exact ⟨[], rfl, .inl rfl⟩

theorem dropComma_append {comma : Text} (is : comma = [] ∨ comma = ",".toList)
    (head : s.head? ≠ some ',') : dropComma (comma ++ s) = s := by
  rcases is with rfl | rfl
  · rw [List.nil_append, dropComma.eq_def]
    split
    · exact absurd rfl head
    · rfl
  · rfl

theorem ReadsLike.head (reads : ReadsLike (c :: word) s) (rest : Text) :
    ∃ d t, s ++ rest = d :: t ∧ d.toLower = c := by
  obtain ⟨d, t, rfl, same, -⟩ := readsLike_cons_iff.1 reads
  exact ⟨d, t ++ rest, rfl, same⟩

theorem IsPlaceholders.head (is : IsPlaceholders fields) (rest : Text) :
    ∃ d t, fields ++ rest = d :: t ∧ d.toLower = 'y' := by
  obtain ⟨year, comma, blanks, name, rfl, reads, -⟩ := is
  rw [List.append_assoc]
  exact reads.head _

theorem placeholdersAt_append (is : IsPlaceholders fields) (rest : Text) :
    placeholdersAt (fields ++ rest) = true := by
  obtain ⟨year, comma, blanks, name, rfl, readsYear, isComma, blank, readsName⟩ := is
  obtain ⟨d, t, first, letter⟩ := readsName.head rest
  have plain : isBlank d = false := by
    rw [← isBlank_toLower, letter]
    rfl
  have noBlank : ∀ c ∈ (name ++ rest).head?, isBlank c = false := by
    simpa [first] using plain
  have noComma : (blanks ++ (name ++ rest)).head? ≠ some ',' := by
    cases blanks with
    | nil =>
      simp only [List.nil_append, first, List.head?_cons, ne_eq, Option.some.injEq]
      rintro rfl
      exact absurd letter (by decide)
    | cons c blanks =>
      simp only [List.cons_append, List.head?_cons, ne_eq, Option.some.injEq]
      rintro rfl
      exact absurd (blank ',' List.mem_cons_self) (by decide)
  simp only [List.append_assoc, placeholdersAt, dropFolded?_append readsYear,
    dropComma_append isComma noComma, trimStart_append blank noBlank,
    dropFolded?_append readsName, Option.isSome_some]

/-- The fields stand at the front just if the text begins with a spelling of them. -/
theorem placeholdersAt_iff :
    placeholdersAt s = true ↔ ∃ fields rest, s = fields ++ rest ∧ IsPlaceholders fields := by
  constructor
  · intro found
    rw [placeholdersAt] at found
    cases year : dropFolded? "year".toList s with
    | none =>
      rw [year] at found
      cases found
    | some behind =>
      simp only [year] at found
      obtain ⟨rest, name⟩ := Option.isSome_iff_exists.1 found
      obtain ⟨yearText, rfl, readsYear⟩ := dropFolded?_eq_some_iff.1 year
      obtain ⟨nameText, split, readsName⟩ := dropFolded?_eq_some_iff.1 name
      obtain ⟨comma, whole, isComma⟩ := exists_comma behind
      obtain ⟨blanks, between, blank⟩ := exists_blanks (dropComma behind)
      rw [split] at between
      refine ⟨yearText ++ (comma ++ (blanks ++ nameText)), rest, ?_,
        yearText, comma, blanks, nameText, rfl, readsYear, isComma, blank, readsName⟩
      rw [whole, between]
      simp only [List.append_assoc]
  · rintro ⟨fields, rest, rfl, is⟩
    exact placeholdersAt_append is rest

/-- What is skipped as a mark is a mark, which may be empty. -/
theorem exists_mark (s : Text) : ∃ mark, s = mark ++ dropMark s ∧ IsMark mark := by
  rw [dropMark]
  cases letter : dropFolded? "(c)".toList s with
  | some rest =>
    obtain ⟨sign, rfl, reads⟩ := dropFolded?_eq_some_iff.1 letter
    obtain ⟨blanks, split, blank⟩ := exists_blanks rest
    refine ⟨sign ++ blanks, ?_, .inr ⟨sign, blanks, rfl, .inl reads, blank⟩⟩
    rw [List.append_assoc, ← split]
  | none =>
    cases symbol : dropFolded? "©".toList s with
    | some rest =>
      obtain ⟨sign, rfl, reads⟩ := dropFolded?_eq_some_iff.1 symbol
      obtain ⟨blanks, split, blank⟩ := exists_blanks rest
      refine ⟨sign ++ blanks, ?_, .inr ⟨sign, blanks, rfl, .inr ?_, blank⟩⟩
      · rw [List.append_assoc, ← split]
      · exact readsLike_sign_iff.1 reads
    | none => exact ⟨[], rfl, .inl rfl⟩

/-- Behind a mark the placeholders begin with a letter, so that the scan takes all blanks of the
mark and nothing else. -/
theorem dropMark_append (isMark : IsMark mark) (is : IsPlaceholders fields) (rest : Text) :
    dropMark (mark ++ (fields ++ rest)) = fields ++ rest := by
  obtain ⟨d, t, first, letter⟩ := is.head rest
  have plain : isBlank d = false := by
    rw [← isBlank_toLower, letter]
    rfl
  have noBlank : ∀ c ∈ (fields ++ rest).head?, isBlank c = false := by
    simpa [first] using plain
  rcases isMark with rfl | ⟨sign, blanks, rfl, reads | rfl, blank⟩
  · have noLetter : dropFolded? "(c)".toList (d :: t) = none :=
      dropFolded?_of_head_ne (by rw [letter]; decide) "c)".toList t
    have noSymbol : dropFolded? "©".toList (d :: t) = none :=
      dropFolded?_of_head_ne (by rw [letter]; decide) [] t
    rw [List.nil_append, first, dropMark, noLetter, noSymbol]
  · rw [List.append_assoc, dropMark, dropFolded?_append reads]
    exact trimStart_append blank noBlank
  · have noLetter :
        dropFolded? "(c)".toList ("©".toList ++ blanks ++ (fields ++ rest)) = none := rfl
    rw [dropMark, noLetter, List.append_assoc]
    simp only [dropFolded?_append (readsLike_sign_iff.2 rfl)]
    exact trimStart_append blank noBlank

/-- A notice stands at the front just if the text begins with a spelling of one. -/
theorem noticeAt_iff :
    noticeAt s = true ↔ ∃ notice rest, s = notice ++ rest ∧ IsNotice notice := by
  constructor
  · intro found
    rw [noticeAt] at found
    cases word : dropFolded? "copyright ".toList s with
    | none =>
      rw [word] at found
      cases found
    | some behind =>
      simp only [word] at found
      obtain ⟨wordText, rfl, reads⟩ := dropFolded?_eq_some_iff.1 word
      obtain ⟨mark, whole, isMark⟩ := exists_mark behind
      obtain ⟨fields, rest, split, is⟩ := placeholdersAt_iff.1 found
      rw [split] at whole
      refine ⟨wordText ++ (mark ++ fields), rest, ?_,
        wordText, mark, fields, rfl, reads, isMark, is⟩
      rw [whole]
      simp only [List.append_assoc]
  · rintro ⟨_, rest, rfl, word, mark, fields, rfl, reads, isMark, is⟩
    simp only [List.append_assoc, noticeAt, dropFolded?_append reads, dropMark_append isMark is,
      placeholdersAt_append is]

/-- The search finds a notice just where one is spelled. -/
theorem occursIn_iff_hasNotice : occursIn s = true ↔ HasNotice s := by
  rw [occursIn_iff]
  constructor
  · rintro ⟨before, ending, rfl, found⟩
    obtain ⟨notice, after, rfl, is⟩ := noticeAt_iff.1 found
    exact ⟨before, notice, after, rfl, is⟩
  · rintro ⟨before, notice, after, rfl, is⟩
    exact ⟨before, notice ++ after, rfl, noticeAt_iff.2 ⟨notice, after, rfl, is⟩⟩

instance (s : Text) : Decidable (HasNotice s) := decidable_of_iff _ occursIn_iff_hasNotice

end Scan

/-! ## The pattern -/

/-- What may stand between the word and the year: nothing, or a sign and blanks. -/
def marks : List (List Piece) :=
  [[], literal "(c)".toList ++ [.run isBlank], literal "©".toList ++ [.run isBlank]]

/-- The end that all alternatives share. -/
def fieldPieces : List Piece :=
  literal "year".toList ++ ([.maybe ','] ++ ([.run isBlank] ++ literal "fullname".toList))

/-- The alternative with a given mark. -/
def alternative (mark : List Piece) : List Piece :=
  literal "copyright ".toList ++ (mark ++ fieldPieces)

/-- The case of ASCII letters left aside, for characters of a pattern in lower case. -/
def SameInAscii (c d : Char) : Prop := c = d.toLower

section Pattern

variable {word s t : Text}

/-- The pieces of a word spell what reads like it. -/
theorem spelled_word_iff : Spelled SameInAscii (literal word) s ↔ ReadsLike word s := by
  have mapped : List.Forall₂ SameInAscii word s ↔
      List.Forall₂ (· = ·) word (s.map Char.toLower) := by
    rw [List.forall₂_map_right_iff]
    rfl
  rw [spelled_literal_iff, mapped, List.forall₂_eq_eq_eq, ReadsLike, eq_comm]

theorem spelled_comma_iff : Spelled SameInAscii [.maybe ','] s ↔ s = [] ∨ s = ",".toList := by
  have comma (d : Char) : SameInAscii ',' d ↔ d = ',' := by
    rw [SameInAscii, eq_comm]
    exact toLower_eq_iff rfl
  rw [spelled_singleton_iff]
  simp [Piece.Spells, comma]

theorem spelled_blanks_iff :
    Spelled SameInAscii [.run isBlank] s ↔ ∀ c ∈ s, isBlank c = true :=
  spelled_singleton_iff

/-- A mark is spelled by one of the three alternatives. -/
theorem isMark_iff_spelled : IsMark s ↔ ∃ mark ∈ marks, Spelled SameInAscii mark s := by
  simp only [marks, List.mem_cons, List.not_mem_nil, or_false, exists_eq_or_imp, exists_eq_left,
    spelled_append_iff, spelled_word_iff, spelled_blanks_iff, readsLike_sign_iff]
  constructor
  · rintro (empty | ⟨sign, blanks, split, reads | is, blank⟩)
    · exact .inl empty
    · exact .inr (.inl ⟨sign, blanks, split, reads, blank⟩)
    · exact .inr (.inr ⟨sign, blanks, split, is, blank⟩)
  · rintro (empty | ⟨sign, blanks, split, reads, blank⟩ | ⟨sign, blanks, split, is, blank⟩)
    · exact .inl empty
    · exact .inr ⟨sign, blanks, split, .inl reads, blank⟩
    · exact .inr ⟨sign, blanks, split, .inr is, blank⟩

/-- The fields are what their pieces spell. -/
theorem isPlaceholders_iff_spelled : IsPlaceholders s ↔ Spelled SameInAscii fieldPieces s := by
  simp only [fieldPieces, spelled_append_iff, spelled_word_iff, spelled_comma_iff,
    spelled_blanks_iff]
  constructor
  · rintro ⟨year, comma, blanks, name, rfl, readsYear, isComma, blank, readsName⟩
    exact ⟨year, _, rfl, readsYear, comma, _, rfl, isComma, blanks, name, rfl, blank, readsName⟩
  · rintro ⟨year, _, rfl, readsYear, comma, _, rfl, isComma, blanks, name, rfl, blank, readsName⟩
    exact ⟨year, comma, blanks, name, rfl, readsYear, isComma, blank, readsName⟩

/-- A notice is what one of the three alternatives spells, in ASCII letters of either case. -/
theorem isNotice_iff_spelled :
    IsNotice s ↔ ∃ mark ∈ marks, Spelled SameInAscii (alternative mark) s := by
  simp only [alternative, spelled_append_iff, spelled_word_iff, ← isPlaceholders_iff_spelled]
  constructor
  · rintro ⟨word, mark, fields, rfl, reads, isMark, is⟩
    obtain ⟨pieces, known, spelled⟩ := isMark_iff_spelled.1 isMark
    exact ⟨pieces, known, word, _, rfl, reads, mark, fields, rfl, spelled, is⟩
  · rintro ⟨pieces, known, word, _, rfl, reads, mark, fields, rfl, spelled, is⟩
    exact ⟨word, mark, fields, rfl, reads, isMark_iff_spelled.2 ⟨pieces, known, spelled⟩, is⟩

theorem eq_isBlank_of_mem {mark : List Piece} (known : mark ∈ marks) {among : Char → Bool}
    (mem : .run among ∈ alternative mark) : among = isBlank := by
  simp only [marks, List.mem_cons, List.not_mem_nil, or_false] at known
  rcases known with rfl | rfl | rfl <;> simpa [alternative, fieldPieces, literal] using mem

/-- A notice in the one text stands in the other one too, at the same place. -/
theorem HasNotice.of_map_toLower_eq (same : s.map Char.toLower = t.map Char.toLower)
    (has : HasNotice s) : HasNotice t := by
  obtain ⟨before, notice, after, rfl, is⟩ := has
  simp only [List.map_append] at same
  obtain ⟨front, rest, rfl, -, restEq⟩ := List.map_eq_append_iff.1 same.symm
  obtain ⟨found, back, rfl, foundEq, -⟩ := List.map_eq_append_iff.1 restEq
  obtain ⟨mark, known, spelled⟩ := isNotice_iff_spelled.1 is
  refine ⟨front, found, back, rfl, isNotice_iff_spelled.2 ⟨mark, known, ?_⟩⟩
  refine spelled.of_map_eq (fun c d e fold same => same.trans fold) ?_ foundEq.symm
  intro among mem d e fold blank
  rw [eq_isBlank_of_mem known mem] at blank ⊢
  rwa [← isBlank_toLower, ← fold, isBlank_toLower]

theorem HasNotice.within (has : HasNotice s) (before after : Text) :
    HasNotice (before ++ (s ++ after)) := by
  obtain ⟨front, notice, back, rfl, is⟩ := has
  exact ⟨before ++ front, notice, back ++ after, by simp only [List.append_assoc], is⟩

end Pattern

/-! ## Case folding -/

/-- What the simple case folding of Unicode does to the characters of ASCII and to the copyright
sign, and which characters it folds to these. -/
structure IsCaseFolding (fold : Char → Char) : Prop where
  ascii : ∀ c, c.toNat < 128 → fold c = c.toLower
  kelvinSign : fold '\u212a' = 'k'
  longS : fold '\u017f' = 's'
  /-- Of the characters outside of ASCII only these two fold to one in it. -/
  foreign : ∀ c, 128 ≤ c.toNat → c ≠ '\u212a' → c ≠ '\u017f' → 128 ≤ (fold c).toNat
  /-- The copyright sign has no case. -/
  sign : ∀ c, fold '©' = fold c ↔ c = '©'

section Folding

variable {fold : Char → Char} {mark : List Piece} {piece : Piece} {c : Char} {s : Text}

/-- Letters outside ASCII have no case here. -/
theorem toLower_eq_self_of_foreign (foreign : 128 ≤ c.toNat) : c.toLower = c := by
  apply Char.toLower_eq_of_not_isUpper
  intro upper
  have bounds := bounds_of_isUpper upper
  omega

theorem mem_of_letter_literal {word : Text} (mem : piece ∈ literal word)
    (letter : c ∈ piece.letter?) : c ∈ word := by
  obtain ⟨d, known, rfl⟩ := List.mem_map.1 mem
  obtain rfl := Option.some.inj letter
  exact known

/-- The characters of the pattern. -/
theorem mem_of_letter (known : mark ∈ marks) (mem : piece ∈ alternative mark)
    (letter : c ∈ piece.letter?) : c ∈ "copyright (c)©year,fullname".toList := by
  have among {word : Text} (part : word ⊆ "copyright (c)©year,fullname".toList)
      (here : piece ∈ literal word) : c ∈ "copyright (c)©year,fullname".toList :=
    part (mem_of_letter_literal here letter)
  simp only [marks, List.mem_cons, List.not_mem_nil, or_false] at known
  simp only [alternative, fieldPieces, List.mem_append, List.mem_singleton] at mem
  rcases mem with word | sign | year | rfl | rfl | name
  · exact among (by decide) word
  · rcases known with rfl | rfl | rfl
    · cases sign
    · simp only [List.mem_append, List.mem_singleton] at sign
      rcases sign with sign | rfl
      · exact among (by decide) sign
      · cases letter
    · simp only [List.mem_append, List.mem_singleton] at sign
      rcases sign with sign | rfl
      · exact among (by decide) sign
      · cases letter
  · exact among (by decide) year
  · obtain rfl := Option.some.inj letter
    decide
  · cases letter
  · exact among (by decide) name

/-- They are in lower case, and neither `k` nor `s` is among them. -/
theorem letter_cases (known : mark ∈ marks) (mem : piece ∈ alternative mark)
    (letter : c ∈ piece.letter?) :
    c = '©' ∨ c.toNat < 128 ∧ c.toLower = c ∧ c ≠ 'k' ∧ c ≠ 's' := by
  have letters : ∀ c ∈ "copyright (c)©year,fullname".toList,
      c = '©' ∨ c.toNat < 128 ∧ c.toLower = c ∧ c ≠ 'k' ∧ c ≠ 's' := by
    simp
  exact letters c (mem_of_letter known mem letter)

/-- On the letters of the alternatives, any case folding agrees with that of ASCII. -/
theorem IsCaseFolding.fold_eq_iff (folding : IsCaseFolding fold) (known : mark ∈ marks)
    (mem : piece ∈ alternative mark) (letter : c ∈ piece.letter?) (d : Char) :
    fold c = fold d ↔ SameInAscii c d := by
  rw [SameInAscii, eq_comm (a := c)]
  rcases letter_cases known mem letter with rfl | ⟨ascii, small, noK, noS⟩
  · rw [folding.sign, toLower_eq_iff rfl]
  · rw [folding.ascii c ascii, small]
    by_cases inside : d.toNat < 128
    · rw [folding.ascii d inside, eq_comm]
    · have outside : 128 ≤ d.toNat := by omega
      have apart : ¬ d.toLower = c := by
        rw [toLower_eq_self_of_foreign outside]
        rintro rfl
        exact inside ascii
      refine iff_of_false (fun same => ?_) apart
      -- The two that fold to ASCII fold to letters that the pattern does not have.
      by_cases kelvin : d = '\u212a'
      · rw [kelvin, folding.kelvinSign] at same
        exact noK same
      · by_cases long : d = '\u017f'
        · rw [long, folding.longS] at same
          exact noS same
        · have := folding.foreign d outside kelvin long
          rw [← same] at this
          omega

/-- Notices are the same under any case folding. -/
theorem IsCaseFolding.isNotice_iff (folding : IsCaseFolding fold) :
    IsNotice s ↔ ∃ mark ∈ marks, Spelled (fun c d => fold c = fold d) (alternative mark) s := by
  rw [isNotice_iff_spelled]
  refine exists_congr fun mark => and_congr_right fun known => ?_
  exact (spelled_congr fun piece mem c letter => folding.fold_eq_iff known mem letter).symm

/-- No letter outside ASCII is folded with a letter of the alternatives. -/
theorem IsCaseFolding.ascii_of_fold_eq (folding : IsCaseFolding fold) (known : mark ∈ marks)
    (mem : piece ∈ alternative mark) (letter : c ∈ piece.letter?) (alpha : c.isAlpha = true)
    {d : Char} (same : fold c = fold d) : d.toNat < 128 := by
  have equal : c = d.toLower := (folding.fold_eq_iff known mem letter d).1 same
  rcases letter_cases known mem letter with rfl | ⟨ascii, -⟩
  · exact absurd alpha (by decide)
  · by_contra outside
    rw [toLower_eq_self_of_foreign (by omega)] at equal
    exact outside (equal ▸ ascii)

end Folding

/-- One warning for each file with a notice in it. -/
theorem flatMap_warnings_eq (accepted : List Candidate) :
    accepted.flatMap Scan.copyright.warnings =
      (accepted.filter fun file => decide (HasNotice file.text)).map fun file =>
        warning file.path := by
  induction accepted with
  | nil => rfl
  | cons file accepted ih =>
    rw [List.flatMap_cons, List.filter_cons, ih]
    by_cases has : HasNotice file.text
    · simp [Scan.warnings, has, occursIn_iff_hasNotice.2 has]
    · have absent : occursIn file.text = false := by
        rw [← Bool.not_eq_true, occursIn_iff_hasNotice]
        exact has
      simp [Scan.warnings, has, absent]

end CopyrightTemplate

namespace Inspection

open CopyrightTemplate Text

/-- A license is flagged, once, exactly if an unfilled notice stands in it; that is, if one of the
alternatives of the pattern spells a part of it, whatever case folding of characters is used. The
case of ASCII letters does not matter, nor does what stands around a notice; and no character
outside of ASCII folds to a letter of the pattern. -/
theorem check_copyright {σ : Type} (launch : Launcher σ) (accepted : List Candidate) (state : σ)
    {fold : Char → Char} (folding : IsCaseFolding fold) :
    (⟨.scan .copyright, accepted⟩ : Inspection).check launch state =
        (.ok ((accepted.filter fun file => decide (HasNotice file.text)).map fun file =>
          file.path ++ ": license contains sloppy copyright".toList), state) ∧
      (∀ s, HasNotice s ↔ ∃ before found after, s = before ++ (found ++ after) ∧
        ∃ mark ∈ marks, Spelled (fun c d => fold c = fold d) (alternative mark) found) ∧
      (∀ s t : Text, s.map Char.toLower = t.map Char.toLower → (HasNotice s ↔ HasNotice t)) ∧
      (∀ before s after, HasNotice s → HasNotice (before ++ (s ++ after))) ∧
      ∀ mark ∈ marks, ∀ piece ∈ alternative mark, ∀ c ∈ piece.letter?, c.isAlpha = true →
        ∀ d, fold c = fold d → d.toNat < 128 := by
  have checked := check_scan launch state
    (rfl : (⟨.scan .copyright, accepted⟩ : Inspection).checker = .scan .copyright)
  rw [flatMap_warnings_eq] at checked
  refine ⟨checked, ?_, ?_, fun before s after has => has.within before after, ?_⟩
  · intro s
    simp only [HasNotice, folding.isNotice_iff]
  · intro s t same
    exact ⟨.of_map_toLower_eq same, .of_map_toLower_eq same.symm⟩
  · intro mark known piece mem c letter alpha d same
    exact folding.ascii_of_fold_eq known mem letter alpha same

/-! ### Three licenses -/

/-- Simple case folding of the characters of ASCII and of those that fold to them. -/
def simpleFolding (c : Char) : Char :=
  if c = '\u212a' then 'k' else if c = '\u017f' then 's' else c.toLower

/-- A folding that treats letters beyond ASCII too is a case folding in this sense. -/
theorem isCaseFolding_simpleFolding : IsCaseFolding simpleFolding where
  ascii c inside := by
    have noKelvin : c ≠ '\u212a' := by
      rintro rfl
      exact absurd inside (by decide)
    have noLong : c ≠ '\u017f' := by
      rintro rfl
      exact absurd inside (by decide)
    rw [simpleFolding, if_neg noKelvin, if_neg noLong]
  kelvinSign := rfl
  longS := rfl
  foreign c outside noKelvin noLong := by
    rwa [simpleFolding, if_neg noKelvin, if_neg noLong, toLower_eq_self_of_foreign outside]
  sign c := by
    have kept : simpleFolding '©' = '©' := rfl
    rw [kept, simpleFolding]
    split_ifs with kelvin long
    · exact iff_of_false (by decide) (by rintro rfl; exact absurd kelvin (by decide))
    · exact iff_of_false (by decide) (by rintro rfl; exact absurd long (by decide))
    · rw [eq_comm]
      exact toLower_eq_iff rfl

/-- A license with a given text. -/
def license (path text : String) : Candidate :=
  { Candidate.ofPaths "/s/0-LICENSE".toList path.toList with contents := some text.toList }

/-- A template with two notices, one that has been filled in, and one without a space. -/
def licenses : List Candidate :=
  [license "a/LICENSE" "(*) COPYRIGHT (C)\u2003Year,\n\u00a0FullName, copyright yearfullname",
    license "b/LICENSE" "Copyright 2023 Jane Doe", license "c/LICENSE" "Copyright©YEAR, FULLNAME"]

/-- A notice in mixed case and one with another mark are found, one without its fields is not. -/
theorem check_licenses :
    IsCaseFolding simpleFolding ∧
      (⟨.scan .copyright, licenses⟩ : Inspection).check (fun _ state => (.ok ⟨0, []⟩, state)) () =
        (.ok ["a/LICENSE: license contains sloppy copyright".toList], ()) := by
  obtain ⟨checked, -⟩ := check_copyright (fun _ state => (.ok ⟨0, []⟩, state)) licenses ()
    isCaseFolding_simpleFolding
  exact ⟨isCaseFolding_simpleFolding, checked⟩

end Inspection

end CheckoutLint
