import CheckoutLint.Text.Utf8

/-!
Octet texts. Programs see bytes and not characters: a text in which every character stands for the
byte of its number serves for both, and what is a scan of a text is then a scan of bytes.

Main statement:

* `Text.toBytes_ofBytes`: bytes survive being read as an octet text.
-/

namespace CheckoutLint.Text

/-- The octet text of bytes. -/
def ofBytes (bytes : List UInt8) : Text := bytes.map fun b => Char.ofNat b.toNat

/-- The bytes of an octet text. -/
def toBytes (octets : Text) : List UInt8 := octets.map fun c => UInt8.ofNat c.toNat

/-- Bytes are read back from the characters of their numbers. -/
theorem toBytes_ofBytes (bytes : List UInt8) : toBytes (ofBytes bytes) = bytes := by
  have char (b : UInt8) : UInt8.ofNat (Char.ofNat b.toNat).toNat = b := by
    have valid : (b.toNat).isValidChar := .inl (Nat.lt_trans b.toNat_lt (by decide))
    rw [Char.ofNat, dif_pos valid]
    exact UInt8.ofNat_toNat
  rw [toBytes, ofBytes, List.map_map]
  exact (List.map_congr_left fun b _ => char b).trans (List.map_id bytes)

/-- The octet text of a text's UTF-8 form. -/
def octets (s : Text) : Text :=
  if s.all fun c => c.toNat < 128 then s else ofBytes (utf8 s)

/-- The text that an octet text is the UTF-8 form of, read lossily. -/
def ofOctets (octets : Text) : Text :=
  if octets.all fun c => c.toNat < 128 then octets else decodeLossy (toBytes octets)

end CheckoutLint.Text
