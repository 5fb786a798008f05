import CheckoutLint.Text.Utf8
import Mathlib.Algebra.Group.Nat.Defs

/-!
What reading bytes lossily keeps. `Reads s bytes` says that the text has a character for every byte
of ASCII, in order, and between them at least one other character wherever there are other bytes:
bytes above 127 are never read as ASCII, never swallow a byte of ASCII, and never vanish.

* `takeTail_bounds`: the number that a complete tail gives lies between what its first byte allows.
* `reads_decodeLossy`: every byte string is read so, whether it is well formed or not.
-/

namespace CheckoutLint.Text

/-- `Reads s bytes`: bytes of ASCII are read as their own characters, and each stretch of other
bytes as one or more characters that are not ASCII. -/
inductive Reads : Text → List UInt8 → Prop
  | nil : Reads [] []
  | ascii {b : UInt8} {s : Text} {bytes : List UInt8} :
    b.toNat < 128 → Reads s bytes → Reads (Char.ofNat b.toNat :: s) (b :: bytes)
  /-- A character of its own for a byte that is not ASCII. -/
  | foreign {c : Char} {b : UInt8} {s : Text} {bytes : List UInt8} :
    128 ≤ c.toNat → 128 ≤ b.toNat → Reads s bytes → Reads (c :: s) (b :: bytes)
  /-- One character for such a byte and for what it stands for already. -/
  | joined {c : Char} {b : UInt8} {s : Text} {bytes : List UInt8} :
    128 ≤ c.toNat → 128 ≤ b.toNat → Reads (c :: s) bytes → Reads (c :: s) (b :: bytes)

theorem toNat_ofByte (b : UInt8) : (Char.ofNat b.toNat).toNat = b.toNat := by
  have valid : b.toNat.isValidChar := .inl (Nat.lt_trans b.toNat_lt (by decide))
  rw [Char.ofNat, dif_pos valid]
  rfl

/-- One character may stand for a whole stretch of bytes that are not ASCII. -/
theorem Reads.stretch {c : Char} {b : UInt8} {s : Text} {tail bytes : List UInt8}
    (reads : Reads s bytes) (char : 128 ≤ c.toNat) (byte : 128 ≤ b.toNat)
    (high : ∀ x ∈ tail, 128 ≤ x.toNat) : Reads (c :: s) (b :: (tail ++ bytes)) := by
  induction tail generalizing b with
  | nil => exact .foreign char byte reads
  | cons x tail ih =>
    have first := high x List.mem_cons_self
    exact .joined char byte (ih first fun y mem => high y (List.mem_cons_of_mem _ mem))

/-! ## One character -/

/-- A tail consumes bytes of its ranges only. -/
theorem takeTail_suffix (n : Nat) {low : UInt8} (high : UInt8) (bits : Nat) (bytes : List UInt8)
    (range : 128 ≤ low.toNat) :
    ∃ tail, bytes = tail ++ (takeTail n low high bits bytes).2 ∧ ∀ b ∈ tail, 128 ≤ b.toNat := by
  fun_induction takeTail n low high bits bytes with
  | case1 => exact ⟨[], rfl, by simp⟩
  | case2 => exact ⟨[], rfl, by simp⟩
  | case3 n low high bits b bytes inside ih =>
    obtain ⟨tail, split, above⟩ := ih (by decide)
    have first := UInt8.le_iff_toNat_le.1 inside.1
    refine ⟨b :: tail, congrArg (b :: ·) split, ?_⟩
    intro x mem
    rcases List.mem_cons.1 mem with rfl | mem
    · omega
    · exact above x mem
  | case4 => exact ⟨[], rfl, by simp⟩

/-- A complete tail begins with a byte of its range, which appends six bits. -/
theorem exists_of_takeTail_eq_some {n : Nat} {low high : UInt8} {bits value : Nat}
    {bytes rest : List UInt8}
    (taken : takeTail (n + 1) low high bits bytes = (some value, rest)) :
    ∃ (b : UInt8) (behind : List UInt8), low.toNat ≤ b.toNat ∧ b.toNat ≤ high.toNat ∧
      takeTail n 0x80 0xBF (bits * 64 + (b.toNat - 128)) behind = (some value, rest) := by
  cases bytes with
  | nil => simp [takeTail] at taken
  | cons b bytes =>
    rw [takeTail] at taken
    split at taken
    · rename_i inside
      exact ⟨b, bytes, UInt8.le_iff_toNat_le.1 inside.1, UInt8.le_iff_toNat_le.1 inside.2, taken⟩
    · simp at taken

/-- Each further byte of a tail appends six bits; the first of them lies in the given range. -/
theorem takeTail_bounds {n : Nat} {low high : UInt8} {bits value : Nat} {bytes rest : List UInt8}
    (range : 128 ≤ low.toNat ∧ high.toNat < 192)
    (taken : takeTail (n + 1) low high bits bytes = (some value, rest)) :
    (bits * 64 + (low.toNat - 128)) * 64 ^ n ≤ value ∧
      value < (bits * 64 + (high.toNat - 128) + 1) * 64 ^ n := by
  induction n generalizing low high bits bytes with
  | zero =>
    obtain ⟨b, behind, lower, upper, taken⟩ := exists_of_takeTail_eq_some taken
    simp only [takeTail, Prod.mk.injEq, Option.some.injEq] at taken
    omega
  | succ n ih =>
    obtain ⟨b, behind, lower, upper, taken⟩ := exists_of_takeTail_eq_some taken
    have further := ih ⟨by decide, by decide⟩ taken
    have base : (0x80 : UInt8).toNat = 128 := rfl
    have top : (0xBF : UInt8).toNat = 191 := rfl
    rw [base, top] at further
    constructor
    · calc (bits * 64 + (low.toNat - 128)) * 64 ^ (n + 1)
          = (bits * 64 + (low.toNat - 128)) * 64 * 64 ^ n := by
            rw [Nat.pow_succ', Nat.mul_assoc]
        _ ≤ ((bits * 64 + (b.toNat - 128)) * 64 + (128 - 128)) * 64 ^ n :=
            Nat.mul_le_mul_right _ (by omega)
        _ ≤ value := further.1
    · calc value
          < ((bits * 64 + (b.toNat - 128)) * 64 + (191 - 128) + 1) * 64 ^ n := further.2
        _ ≤ (bits * 64 + (high.toNat - 128) + 1) * 64 * 64 ^ n :=
            Nat.mul_le_mul_right _ (by omega)
        _ = (bits * 64 + (high.toNat - 128) + 1) * 64 ^ (n + 1) := by
            rw [Nat.pow_succ', Nat.mul_assoc]

/-- The numbers that sequences with this first byte can stand for: past ASCII, and characters. -/
structure Lead.IsSound (lead : Lead) (n : Nat) : Prop where
  tail : lead.tail = n + 1
  range : 128 ≤ lead.low.toNat ∧ lead.high.toNat < 192
  past : 128 ≤ (lead.bits * 64 + (lead.low.toNat - 128)) * 64 ^ n
  valid : (lead.bits * 64 + (lead.high.toNat - 128) + 1) * 64 ^ n ≤ 0xD800 ∨
    0xE000 ≤ (lead.bits * 64 + (lead.low.toNat - 128)) * 64 ^ n ∧
      (lead.bits * 64 + (lead.high.toNat - 128) + 1) * 64 ^ n ≤ 0x110000

/-- A byte that leads a character is followed by so many others. -/
theorem exists_isSound_of_lead {b : UInt8} {lead : Lead} (h : lead? b = some lead) :
    ∃ n, lead.IsSound n := by
  have common : 128 ≤ (0x80 : UInt8).toNat ∧ (0xBF : UInt8).toNat < 192 := by decide
  unfold lead? at h
  simp only [UInt8.le_iff_toNat_le, UInt8.reduceToNat, ← UInt8.toNat_inj] at h
  split at h
  · obtain rfl := Option.some.inj h
    exact ⟨0, rfl, common, by simp; omega, .inl (by simp; omega)⟩
  split at h
  · obtain rfl := Option.some.inj h
    exact ⟨1, rfl, by decide, by decide, .inl (by decide)⟩
  split at h
  · obtain rfl := Option.some.inj h
    exact ⟨1, rfl, by decide, by decide, .inl (by decide)⟩
  split at h
  · obtain rfl := Option.some.inj h
    refine ⟨1, rfl, common, by simp; omega, ?_⟩
    simp
    omega
  split at h
  · obtain rfl := Option.some.inj h
    exact ⟨2, rfl, by decide, by decide, .inr (by decide)⟩
  split at h
  · obtain rfl := Option.some.inj h
    exact ⟨2, rfl, common, by simp; omega, .inr (by simp; omega)⟩
  split at h
  · obtain rfl := Option.some.inj h
    exact ⟨2, rfl, by decide, by decide, .inr (by decide)⟩
  · cases h

/-- What begins with a byte beyond ASCII is decoded to one character beyond ASCII, and uses up no
ASCII byte. -/
theorem decodeChar_of_not_ascii {b : UInt8} (bytes : List UInt8) (h : 128 ≤ b.toNat) :
    128 ≤ (decodeChar b bytes).1.toNat ∧
      ∃ tail, bytes = tail ++ (decodeChar b bytes).2 ∧ ∀ x ∈ tail, 128 ≤ x.toNat := by
  have high : ¬ b < 0x80 := by
    rw [UInt8.lt_iff_toNat_lt]
    exact Nat.not_lt.2 h
  have mark : 128 ≤ replacement.toNat := by decide
  rw [decodeChar, if_neg high]
  split
  · exact ⟨mark, [], rfl, by simp⟩
  · rename_i lead found
    obtain ⟨n, sound⟩ := exists_isSound_of_lead found
    obtain ⟨tail, split, above⟩ :=
      takeTail_suffix lead.tail lead.high lead.bits bytes sound.range.1
    split
    · rename_i value rest taken
      rw [sound.tail] at taken
      obtain ⟨lower, upper⟩ := takeTail_bounds sound.range taken
      have valid : value.isValidChar := by
        rcases sound.valid with below | above
        · exact .inl (Nat.lt_of_lt_of_le upper below)
        · exact .inr ⟨by omega, by omega⟩
      rw [sound.tail, taken] at split
      refine ⟨?_, tail, split, above⟩
      rw [Char.ofNat, dif_pos valid]
      exact Nat.le_trans sound.past lower
    · rename_i rest taken
      rw [taken] at split
      exact ⟨mark, tail, split, above⟩

/-! ## Whole byte strings -/

/-- Every byte string is read with the bytes of ASCII in their places. -/
theorem reads_decodeLossy (bytes : List UInt8) : Reads (decodeLossy bytes) bytes := by
  fun_induction decodeLossy bytes with
  | case1 => exact .nil
  | case2 b bytes ih =>
    by_cases ascii : b.toNat < 128
    · have low : b < 0x80 := UInt8.lt_iff_toNat_lt.2 ascii
      simp only [decodeChar, if_pos low] at ih ⊢
      exact .ascii ascii ih
    · obtain ⟨char, tail, split, high⟩ := decodeChar_of_not_ascii bytes (Nat.le_of_not_lt ascii)
      generalize decodeChar b bytes = decoded at char split ih ⊢
      rw [split]
      exact ih.stretch char (Nat.le_of_not_lt ascii) high

end CheckoutLint.Text
