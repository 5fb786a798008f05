import CheckoutLint.Text.Utf8
import Mathlib.Tactic.SplitIfs

/-!
The order of texts and that of their bytes. A character that stands before another one is written
with a lesser lead byte, or with the same one and a lesser tail; so texts in the order of their
characters are in the order of their UTF-8 forms.

* `Text.utf8EncodeChar_append_lt`: two characters decide, whatever follows them.
* `Text.utf8_lt`: the order of two texts.
-/

namespace CheckoutLint.Text

/-- The order of texts is that of their characters from the left. -/
theorem isAtMost_iff {s t : Text} : isAtMost s t = true ↔ ¬t < s := by
  rw [isAtMost, Bool.not_eq_true', decide_eq_false_iff_not]

theorem utf8_cons (c : Char) (s : Text) : utf8 (c :: s) = String.utf8EncodeChar c ++ utf8 s := by
  rw [utf8, utf8, List.flatMap_cons]

theorem ofNat_cons_lt_iff {m n : Nat} (x y : List UInt8) (hm : m < 256) (hn : n < 256) :
    UInt8.ofNat m :: x < UInt8.ofNat n :: y ↔ m < n ∨ m = n ∧ x < y := by
  rw [List.cons_lt_cons_iff, UInt8.lt_iff_toNat_lt, ← UInt8.toNat_inj, UInt8.toNat_ofNat',
    UInt8.toNat_ofNat', Nat.mod_eq_of_lt hm, Nat.mod_eq_of_lt hn]

/-- Of two characters the lesser one has the lesser bytes, whatever follows. -/
theorem utf8EncodeChar_append_lt {c d : Char} (less : c < d) (x y : List UInt8) :
    String.utf8EncodeChar c ++ x < String.utf8EncodeChar d ++ y := by
  have less : c.val.toNat < d.val.toNat := UInt32.lt_iff_toNat_lt.1 (Char.lt_def.1 less)
  have bound : d.val.toNat < 0x110000 := by
    have valid := d.valid
    simp only [UInt32.isValidChar, Nat.isValidChar] at valid
    omega
  simp only [String.utf8EncodeChar]
  generalize c.val.toNat = m at less
  generalize d.val.toNat = n at less bound
  -- The digits of a number to base 64, one after the other.
  have second (k : Nat) : k / 4096 = k / 64 / 64 := by omega
  have third (k : Nat) : k / 262144 = k / 64 / 64 / 64 := by omega
  simp only [second, third]
  -- The lead bytes of different lengths are in different ranges; of one length, the first digits
  -- that differ decide.
  split_ifs <;>
    simp (disch := omega) only [List.cons_append, List.nil_append, ofNat_cons_lt_iff] <;>
    omega

/-- The order of texts is that of their bytes. -/
theorem utf8_lt {s t : Text} (less : s < t) : utf8 s < utf8 t := by
  induction s generalizing t with
  | nil =>
    cases t with
    | nil => exact absurd less (List.lt_irrefl [])
    | cons d t =>
      rw [utf8_cons]
      cases form : String.utf8EncodeChar d with
      | nil => exact absurd form String.utf8EncodeChar_ne_nil
      | cons b bytes => exact List.nil_lt_cons b _
  | cons c s ih =>
    cases t with
    | nil => exact absurd less (List.not_lt_nil _)
    | cons d t =>
      rw [utf8_cons, utf8_cons]
      rcases List.cons_lt_cons_iff.1 less with first | ⟨rfl, rest⟩
      · exact utf8EncodeChar_append_lt first _ _
      · exact List.append_left_lt (ih rest)

end CheckoutLint.Text
