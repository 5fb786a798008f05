import CheckoutLint.Text.Utf8
import Mathlib.Data.List.Basic

/-!
Reading a text back from its UTF-8 form. The first byte of a character announces how many bytes
follow and in which range the first of these lies; each of them adds six bits, and together they
give the number of the character.

* `Text.decodeChar_two`, `Text.decodeChar_three`, `Text.decodeChar_four`: the characters that take
  more than one byte, by the bits in each.
* `Text.decodeLossy_utf8`: reading undoes writing.
-/

namespace CheckoutLint.Text

/-! ## The bytes of a character -/

/-- A byte that follows the first one of a character, with six bits of its number. -/
def tailByte (bits : Nat) : UInt8 := UInt8.ofNat (bits + 128)

theorem lead?_two : ∀ bits < 32, 2 ≤ bits →
    lead? (UInt8.ofNat (bits + 192)) = some ⟨bits, 1, 0x80, 0xBF⟩ := by
  decide

/-- Overlong forms and surrogates are left out by the range of the second byte. -/
theorem lead?_three : ∀ bits < 16, lead? (UInt8.ofNat (bits + 224)) =
    some ⟨bits, 2, if bits = 0 then 0xA0 else 0x80, if bits = 13 then 0x9F else 0xBF⟩ := by
  decide

/-- Overlong forms and numbers past the last code point are left out by the range of the second
byte. -/
theorem lead?_four : ∀ bits < 5, lead? (UInt8.ofNat (bits + 240)) =
    some ⟨bits, 3, if bits = 0 then 0x90 else 0x80, if bits = 4 then 0x8F else 0xBF⟩ := by
  decide

theorem toNat_ofNat_of_lt {n : Nat} (small : n < 256) : (UInt8.ofNat n).toNat = n := by
  rw [UInt8.toNat_ofNat', Nat.mod_eq_of_lt small]

/-- One byte of a tail adds its six bits, if the whole of it is in the range. -/
theorem takeTail_tailByte (n : Nat) {low high : UInt8} (bits : Nat) {more : Nat}
    (bytes : List UInt8) (small : more < 64) (above : low.toNat ≤ more + 128)
    (below : more + 128 ≤ high.toNat) :
    takeTail (n + 1) low high bits (tailByte more :: bytes) =
      takeTail n 0x80 0xBF (bits * 64 + more) bytes := by
  have byte : (tailByte more).toNat = more + 128 := toNat_ofNat_of_lt (by omega)
  have inside : low ≤ tailByte more ∧ tailByte more ≤ high := by
    rw [UInt8.le_iff_toNat_le, UInt8.le_iff_toNat_le, byte]
    exact ⟨above, below⟩
  rw [takeTail, if_pos inside, byte]
  exact congrArg (fun digit => takeTail n 0x80 0xBF (bits * 64 + digit) bytes)
    (Nat.add_sub_cancel more 128)

/-- A further byte of a tail may hold any six bits. -/
theorem takeTail_tailByte_any (n bits : Nat) {more : Nat} (bytes : List UInt8) (small : more < 64) :
    takeTail (n + 1) 0x80 0xBF bits (tailByte more :: bytes) =
      takeTail n 0x80 0xBF (bits * 64 + more) bytes :=
  takeTail_tailByte n bits bytes small (Nat.le_add_left 128 more)
    (Nat.add_le_add_right (Nat.le_of_lt_succ small) 128)

section Range

variable {p : Prop} [Decidable p] {bound : UInt8} {more : Nat}

/-- The range of a second byte may begin higher than that of others. -/
theorem low_le_of (long : p → bound.toNat ≤ more + 128) :
    (if p then bound else 0x80).toNat ≤ more + 128 := by
  split
  · exact long ‹p›
  · exact Nat.le_add_left 128 more

/-- The range of a second byte may end lower than that of others. -/
theorem le_high_of (valid : p → more + 128 ≤ bound.toNat) (small : more < 64) :
    more + 128 ≤ (if p then bound else 0xBF).toNat := by
  split
  · exact valid ‹p›
  · exact Nat.add_le_add_right (Nat.le_of_lt_succ small) 128

end Range

/-! ## One character -/

/-- A lead byte with a complete tail gives the character of its number. -/
theorem decodeChar_of_lead {n bits : Nat} {lead : Lead} {bytes rest : List UInt8}
    (high : 128 ≤ n) (small : n < 256) (announces : lead? (UInt8.ofNat n) = some lead)
    (taken : takeTail lead.tail lead.low lead.high lead.bits bytes = (some bits, rest)) :
    decodeChar (UInt8.ofNat n) bytes = (Char.ofNat bits, rest) := by
  have past : ¬UInt8.ofNat n < 0x80 := by
    rw [UInt8.lt_iff_toNat_lt, toNat_ofNat_of_lt small]
    exact Nat.not_lt.2 high
  rw [decodeChar, if_neg past, announces]
  simp only [taken]

section

variable {a b c d : Nat} (bytes : List UInt8)

/-- A character of two bytes is decoded from them. -/
theorem decodeChar_two (long : 2 ≤ a) (ha : a < 32) (hb : b < 64) :
    decodeChar (UInt8.ofNat (a + 192)) (tailByte b :: bytes) =
      (Char.ofNat (a * 64 + b), bytes) := by
  refine decodeChar_of_lead (by omega) (by omega) (lead?_two a ha long) ?_
  rw [takeTail_tailByte_any _ _ _ hb, takeTail]

/-- A character of three bytes is decoded from them. -/
theorem decodeChar_three (ha : a < 16) (hb : b < 64) (hc : c < 64) (long : a = 0 → 32 ≤ b)
    (valid : a = 13 → b < 32) :
    decodeChar (UInt8.ofNat (a + 224)) (tailByte b :: tailByte c :: bytes) =
      (Char.ofNat ((a * 64 + b) * 64 + c), bytes) := by
  refine decodeChar_of_lead (by omega) (by omega) (lead?_three a ha) ?_
  have above : (if a = 0 then 0xA0 else 0x80 : UInt8).toNat ≤ b + 128 :=
    low_le_of fun first => Nat.add_le_add_right (long first) 128
  have below : b + 128 ≤ (if a = 13 then 0x9F else 0xBF : UInt8).toNat :=
    le_high_of (fun last => Nat.add_le_add_right (Nat.le_of_lt_succ (valid last)) 128) hb
  rw [takeTail_tailByte _ _ _ hb above below, takeTail_tailByte_any _ _ _ hc, takeTail]

/-- A character of four bytes is decoded from them. -/
theorem decodeChar_four (ha : a < 5) (hb : b < 64) (hc : c < 64) (hd : d < 64)
    (long : a = 0 → 16 ≤ b) (valid : a = 4 → b < 16) :
    decodeChar (UInt8.ofNat (a + 240)) (tailByte b :: tailByte c :: tailByte d :: bytes) =
      (Char.ofNat (((a * 64 + b) * 64 + c) * 64 + d), bytes) := by
  refine decodeChar_of_lead (by omega) (by omega) (lead?_four a ha) ?_
  have above : (if a = 0 then 0x90 else 0x80 : UInt8).toNat ≤ b + 128 :=
    low_le_of fun first => Nat.add_le_add_right (long first) 128
  have below : b + 128 ≤ (if a = 4 then 0x8F else 0xBF : UInt8).toNat :=
    le_high_of (fun last => Nat.add_le_add_right (Nat.le_of_lt_succ (valid last)) 128) hb
  rw [takeTail_tailByte _ _ _ hb above below, takeTail_tailByte_any _ _ _ hc,
    takeTail_tailByte_any _ _ _ hd, takeTail]

end

/-! ## Texts -/

theorem decodeLossy_cons {b : UInt8} {bytes rest : List UInt8} {c : Char}
    (read : decodeChar b bytes = (c, rest)) : decodeLossy (b :: bytes) = c :: decodeLossy rest := by
  rw [decodeLossy]
  exact congrArg (fun read => read.1 :: decodeLossy read.2) read

/-- A character is read from its UTF-8 form, whatever follows. -/
theorem decodeLossy_utf8EncodeChar_append (c : Char) (bytes : List UInt8) :
    decodeLossy (String.utf8EncodeChar c ++ bytes) = c :: decodeLossy bytes := by
  have valid : c.val.toNat < 0xD800 ∨ 0xDFFF < c.val.toNat ∧ c.val.toNat < 0x110000 := c.valid
  have number : Char.ofNat c.val.toNat = c := Char.ofNat_toNat c
  simp only [String.utf8EncodeChar]
  generalize c.val.toNat = n at number valid
  -- The digits of the number to base 64 make it up again.
  have sum {m : Nat} (same : m = n) : Char.ofNat m = c := same ▸ number
  by_cases one : n ≤ 127
  · have small : UInt8.ofNat n < 0x80 := by
      rw [UInt8.lt_iff_toNat_lt, toNat_ofNat_of_lt (by omega)]
      exact Nat.lt_succ_of_le one
    rw [if_pos one, List.singleton_append, decodeLossy_cons_ascii _ small,
      toNat_ofNat_of_lt (by omega), number]
  rw [if_neg one]
  by_cases two : n ≤ 2047
  · have read := decodeChar_two (a := n / 64 % 32) (b := n % 64) bytes (by omega) (by omega)
      (by omega)
    rw [sum (by omega)] at read
    rw [if_pos two, List.cons_append]
    exact decodeLossy_cons read
  rw [if_neg two]
  by_cases three : n ≤ 65535
  · have read := decodeChar_three (a := n / 4096 % 16) (b := n / 64 % 64) (c := n % 64) bytes
      (by omega) (by omega) (by omega) (by omega) (by omega)
    rw [sum (by omega)] at read
    rw [if_pos three, List.cons_append]
    exact decodeLossy_cons read
  · have read := decodeChar_four (a := n / 262144 % 8) (b := n / 4096 % 64) (c := n / 64 % 64)
      (d := n % 64) bytes (by omega) (by omega) (by omega) (by omega) (by omega) (by omega)
    rw [sum (by omega)] at read
    rw [if_neg three, List.cons_append]
    exact decodeLossy_cons read

/-- What is written is read back. -/
theorem decodeLossy_utf8 (s : Text) : decodeLossy (utf8 s) = s := by
  induction s with
  | nil => rw [utf8, List.flatMap_nil, decodeLossy]
  | cons c s ih => rw [utf8, List.flatMap_cons, decodeLossy_utf8EncodeChar_append, ← utf8, ih]

end CheckoutLint.Text
