import CheckoutLint.Text.Basic

/-!
Texts and bytes. A text is written in UTF-8. Reading is lossy: a byte sequence that is not well
formed gives one replacement character for each maximal part of it that begins a well-formed
sequence, and for each byte that begins none.

Main statements:

* `Text.takeTail_length_le`: reading the tail of a sequence never gives bytes back.
* `Text.decodeLossy_cons_ascii`: a byte below 128 is read as its own character, whatever surrounds
  it.
-/

namespace CheckoutLint

/-- A string of bytes, byte by byte. -/
abbrev Bytes := List UInt8

namespace Text

/-- The UTF-8 form of a text. -/
def utf8 (s : Text) : Bytes := s.flatMap String.utf8EncodeChar

/-- The number of bytes of the UTF-8 form. -/
def byteLength (s : Text) : Nat := s.foldl (fun total c => total + c.utf8Size) 0

theorem foldl_utf8Size (s : Text) (total : Nat) :
    s.foldl (fun total c => total + c.utf8Size) total = total + byteLength s := by
  induction s generalizing total with
  | nil => rfl
  | cons c s ih =>
    rw [byteLength, List.foldl_cons, List.foldl_cons, ih, ih, Nat.zero_add, Nat.add_assoc]

theorem byteLength_cons (c : Char) (s : Text) :
    byteLength (c :: s) = c.utf8Size + byteLength s := by
  rw [byteLength, List.foldl_cons, foldl_utf8Size, Nat.zero_add]

theorem byteLength_append (s t : Text) : byteLength (s ++ t) = byteLength s + byteLength t := by
  rw [byteLength, List.foldl_append, foldl_utf8Size, foldl_utf8Size, Nat.zero_add]

/-- What stands for bytes that are no character. -/
def replacement : Char := '\uFFFD'

/-- What the first byte of a sequence announces: its own bits, how many bytes follow, and the range
in which the first of these must lie. -/
structure Lead where
  bits : Nat
  tail : Nat
  low : UInt8
  high : UInt8
  deriving DecidableEq, Repr

/-- The lead bytes of sequences of two, three and four bytes. The ranges leave out overlong forms,
surrogates and numbers past the last code point. -/
def lead? (b : UInt8) : Option Lead :=
  if 0xC2 ≤ b ∧ b ≤ 0xDF then some ⟨b.toNat - 0xC0, 1, 0x80, 0xBF⟩
  else if b = 0xE0 then some ⟨0, 2, 0xA0, 0xBF⟩
  else if b = 0xED then some ⟨0xD, 2, 0x80, 0x9F⟩
  else if 0xE1 ≤ b ∧ b ≤ 0xEF then some ⟨b.toNat - 0xE0, 2, 0x80, 0xBF⟩
  else if b = 0xF0 then some ⟨0, 3, 0x90, 0xBF⟩
  else if 0xF1 ≤ b ∧ b ≤ 0xF3 then some ⟨b.toNat - 0xF0, 3, 0x80, 0xBF⟩
  else if b = 0xF4 then some ⟨4, 3, 0x80, 0x8F⟩
  else none

/-- Reads `n` bytes of a tail, the first of them in the given range, onto the bits read so far. The
number is missing if the tail breaks off; the bytes not read are given back. -/
def takeTail : (n : Nat) → (low high : UInt8) → (bits : Nat) → List UInt8 → Option Nat × List UInt8
  | 0, _, _, bits, bytes => (some bits, bytes)
  | _ + 1, _, _, _, [] => (none, [])
  | n + 1, low, high, bits, b :: bytes =>
    if low ≤ b ∧ b ≤ high then takeTail n 0x80 0xBF (bits * 64 + (b.toNat - 0x80)) bytes
    else (none, b :: bytes)

theorem takeTail_length_le (n : Nat) (low high : UInt8) (bits : Nat) (bytes : List UInt8) :
    (takeTail n low high bits bytes).2.length ≤ bytes.length := by
  fun_induction takeTail n low high bits bytes with
  | case1 => simp
  | case2 => simp
  | case3 n low high bits b bytes _ ih => simpa using Nat.le_succ_of_le ih
  | case4 => simp

/-- Reads one character at the front of `b :: bytes`. -/
def decodeChar (b : UInt8) (bytes : List UInt8) : Char × List UInt8 :=
  if b < 0x80 then (Char.ofNat b.toNat, bytes)
  else
    match lead? b with
    | none => (replacement, bytes)
    | some lead =>
      match takeTail lead.tail lead.low lead.high lead.bits bytes with
      | (some bits, rest) => (Char.ofNat bits, rest)
      | (none, rest) => (replacement, rest)

/-- Decoding a character never lengthens what is left. -/
theorem decodeChar_length_le (b : UInt8) (bytes : List UInt8) :
    (decodeChar b bytes).2.length ≤ bytes.length := by
  unfold decodeChar
  split
  · simp
  · split
    · simp
    · rename_i lead _
      have short := takeTail_length_le lead.tail lead.low lead.high lead.bits bytes
      split <;> rename_i eq <;> simpa [eq] using short

/-- The text that the bytes stand for. -/
def decodeLossy : List UInt8 → Text
  | [] => []
  | b :: bytes => (decodeChar b bytes).1 :: decodeLossy (decodeChar b bytes).2
termination_by bytes => bytes.length
decreasing_by
  have := decodeChar_length_le b bytes
  simp only [List.length_cons]
  omega

/-- An ASCII byte is decoded to its character. -/
theorem decodeLossy_cons_ascii {b : UInt8} (bytes : List UInt8) (h : b < 0x80) :
    decodeLossy (b :: bytes) = Char.ofNat b.toNat :: decodeLossy bytes := by
  rw [decodeLossy, decodeChar, if_pos h]

/-- The text that the bytes are the UTF-8 form of, if they are that of one. -/
def ofUtf8? (bytes : Bytes) : Option Text :=
  if utf8 (decodeLossy bytes) = bytes then some (decodeLossy bytes) else none

end Text

end CheckoutLint
