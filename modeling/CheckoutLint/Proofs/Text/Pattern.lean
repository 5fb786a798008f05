import CheckoutLint.Text.Basic
import Mathlib

/-!
Patterns with wildcards, and the texts that they spell as a whole. A pattern is a row of pieces, and
a text is spelled by it if it can be cut into as many parts that are spelled by the pieces. Which
characters count as the same is left open, so that a pattern can be read with or without case.

* `spelled_append_iff`, `spelled_literal_iff`: a text is cut where a pattern is.
* `spelled_congr`: what counts as the same matters for the characters of the pattern only.
* `Spelled.of_map_eq`: texts that differ in nothing that a pattern looks at are spelled alike.
-/

namespace CheckoutLint.Text

/-- A piece of a pattern. -/
inductive Piece where
  /-- This character. -/
  | one (c : Char)
  /-- This character or nothing. -/
  | maybe (c : Char)
  /-- Any number of characters of a class, also none. -/
  | run (among : Char → Bool)

namespace Piece

/-- A word, character by character. -/
def literal (word : Text) : List Piece := word.map one

/-- The character that a piece asks for. -/
def letter? : Piece → Option Char
  | one c | maybe c => some c
  | run _ => none

/-- Whether a piece spells a text, given which characters count as one of a pattern. -/
def Spells (same : Char → Char → Prop) : Piece → Text → Prop
  | one c, s => ∃ d, s = [d] ∧ same c d
  | maybe c, s => s = [] ∨ ∃ d, s = [d] ∧ same c d
  | run among, s => ∀ d ∈ s, among d = true

end Piece

open Piece

/-- `Spelled same pieces s`: the pieces, one after the other, spell the text. -/
def Spelled (same : Char → Char → Prop) : List Piece → Text → Prop
  | [], s => s = []
  | piece :: pieces, s => ∃ t u, s = t ++ u ∧ piece.Spells same t ∧ Spelled same pieces u

variable {same other : Char → Char → Prop} {piece : Piece} {pieces front back : List Piece}
  {word s : Text}

theorem spelled_singleton_iff : Spelled same [piece] s ↔ piece.Spells same s := by
  constructor
  · rintro ⟨t, u, rfl, spells, rfl⟩
    rwa [List.append_nil]
  · exact fun spells => ⟨s, [], (List.append_nil s).symm, spells, rfl⟩

/-- Pieces in a row spell texts in a row. -/
theorem spelled_append_iff :
    Spelled same (front ++ back) s ↔
      ∃ t u, s = t ++ u ∧ Spelled same front t ∧ Spelled same back u := by
  induction front generalizing s with
  | nil =>
    constructor
    · exact fun spelled => ⟨[], s, rfl, rfl, spelled⟩
    · rintro ⟨t, u, rfl, rfl, spelled⟩
      exact spelled
  | cons piece front ih =>
    constructor
    · rintro ⟨t, u, rfl, spells, spelled⟩
      obtain ⟨v, w, rfl, first, second⟩ := ih.1 spelled
      exact ⟨t ++ v, w, (List.append_assoc t v w).symm, ⟨t, v, rfl, spells, first⟩, second⟩
    · rintro ⟨t, u, rfl, ⟨v, w, rfl, spells, first⟩, second⟩
      exact ⟨v, w ++ u, List.append_assoc v w u, spells, ih.2 ⟨w, u, rfl, first, second⟩⟩

/-- The pieces of a word spell what is the same letter by letter. -/
theorem spelled_literal_iff : Spelled same (literal word) s ↔ List.Forall₂ same word s := by
  induction word generalizing s with
  | nil => exact List.forall₂_nil_left_iff.symm
  | cons c word ih =>
    rw [List.forall₂_cons_left_iff]
    constructor
    · rintro ⟨t, u, rfl, ⟨d, rfl, fits⟩, spelled⟩
      exact ⟨d, u, fits, ih.1 spelled, rfl⟩
    · rintro ⟨d, u, fits, rest, rfl⟩
      exact ⟨[d], u, rfl, ⟨d, rfl, fits⟩, ih.2 rest⟩

/-- What a piece spells depends only on what is the same as its own letter. -/
theorem Piece.spells_congr (agree : ∀ c ∈ piece.letter?, ∀ d, same c d ↔ other c d) :
    piece.Spells same s ↔ piece.Spells other s := by
  cases piece with
  | one c => simp only [Spells, agree c rfl]
  | maybe c => simp only [Spells, agree c rfl]
  | run among => rfl

/-- What pieces spell depends only on what is the same as their own letters. -/
theorem spelled_congr (agree : ∀ piece ∈ pieces, ∀ c ∈ piece.letter?, ∀ d, same c d ↔ other c d) :
    Spelled same pieces s ↔ Spelled other pieces s := by
  induction pieces generalizing s with
  | nil => rfl
  | cons piece pieces ih =>
    rw [List.forall_mem_cons] at agree
    simp only [Spelled, Piece.spells_congr agree.1, ih agree.2]

section Map

variable {f : Char → Char} {t : Text}

theorem Piece.Spells.of_map_eq (letters : ∀ c d e, f d = f e → same c d → same c e)
    (runs : ∀ among, piece = .run among → ∀ d e, f d = f e → among d = true → among e = true)
    (eq : s.map f = t.map f) (spells : piece.Spells same s) : piece.Spells same t := by
  have single {c d : Char} (fits : same c d) (eq : [d].map f = t.map f) :
      ∃ e, t = [e] ∧ same c e := by
    obtain ⟨e, rfl, image⟩ := List.map_eq_singleton_iff.1 eq.symm
    exact ⟨e, rfl, letters c d e image.symm fits⟩
  cases piece with
  | one c =>
    obtain ⟨d, rfl, fits⟩ := spells
    exact single fits eq
  | maybe c =>
    rcases spells with rfl | ⟨d, rfl, fits⟩
    · exact .inl (List.map_eq_nil_iff.1 eq.symm)
    · exact .inr (single fits eq)
  | run among =>
    intro e mem
    have image : f e ∈ s.map f := eq ▸ List.mem_map_of_mem mem
    obtain ⟨d, here, same⟩ := List.mem_map.1 image
    exact runs among rfl d e same (spells d here)

/-- The induction is on the pattern: the second text is cut where the first one is. -/
theorem Spelled.of_map_eq (letters : ∀ c d e, f d = f e → same c d → same c e)
    (runs : ∀ among, .run among ∈ pieces → ∀ d e, f d = f e → among d = true → among e = true)
    (eq : s.map f = t.map f) (spelled : Spelled same pieces s) : Spelled same pieces t := by
  induction pieces generalizing s t with
  | nil =>
    obtain rfl : s = [] := spelled
    exact List.map_eq_nil_iff.1 eq.symm
  | cons piece pieces ih =>
    obtain ⟨front, back, rfl, spells, rest⟩ := spelled
    rw [List.map_append] at eq
    obtain ⟨first, last, rfl, firstEq, lastEq⟩ := List.map_eq_append_iff.1 eq.symm
    have here : piece.Spells same first :=
      spells.of_map_eq letters (fun among is => runs among (is ▸ List.mem_cons_self)) firstEq.symm
    have there : Spelled same pieces last :=
      ih (fun among mem => runs among (List.mem_cons_of_mem _ mem)) lastEq.symm rest
    exact ⟨first, last, rfl, here, there⟩

end Map

end CheckoutLint.Text
