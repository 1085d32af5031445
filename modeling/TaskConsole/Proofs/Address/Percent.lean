import TaskConsole.Address.Percent
import TaskConsole.Proofs.Text.Utf8

/-!
# Percent signs and back

Where a percent sign may not stand for itself, characters are read back from what they are written
as: decoding the written characters gives the bytes of the original ones (`Percent.decode_encode`).
So different characters are written differently (`Percent.encode_injective`).
-/

namespace TaskConsole.Percent

/-- The bytes of characters that take one byte each. -/
def bytes (cs : List Char) : List UInt8 := cs.map fun c => UInt8.ofNat c.toNat

/-- A byte that is no percent sign stands for itself. -/
theorem decode_cons_of_ne {b : UInt8} (h : b ≠ 37) (rest : List UInt8) :
  decode (b :: rest) = b :: decode rest
  := by
  rcases rest with _ | ⟨high, _ | ⟨low, rest⟩⟩
  · rfl
  · rfl
  · rw [decode, if_neg h]

/-- The digits of a byte are read back. -/
theorem byte?_digits (b : UInt8) :
  byte? (UInt8.ofNat (Number.hexCapital (b.toNat / 16)).toNat)
      (UInt8.ofNat (Number.hexCapital (b.toNat % 16)).toNat)
    = some b
  := by
  have hdigit : ∀ n < 16,
      Number.hexValue? (Char.ofNat (UInt8.ofNat (Number.hexCapital n).toNat).toNat) = some n := by
    decide
  have hlt : b.toNat < 256 := UInt8.toNat_lt b
  have hhigh := hdigit (b.toNat / 16) (by omega)
  have hlow := hdigit (b.toNat % 16) (by omega)
  have hvalue : b.toNat / 16 * 16 + b.toNat % 16 = b.toNat := Nat.div_add_mod' _ _
  simp only [byte?, hhigh, hlow, bind, pure, Option.bind_some, hvalue, UInt8.ofNat_toNat]

/-- Bytes written with percent signs are read back, whatever follows them. -/
theorem decode_encodeByte (written rest : List UInt8) :
  decode (bytes (written.flatMap encodeByte) ++ rest) = written ++ decode rest
  := by
  induction written with
  | nil => rfl
  | cons b written ih =>
    have hbyte : bytes ((b :: written).flatMap encodeByte) ++ rest
        = 37 :: UInt8.ofNat (Number.hexCapital (b.toNat / 16)).toNat
          :: UInt8.ofNat (Number.hexCapital (b.toNat % 16)).toNat
          :: (bytes (written.flatMap encodeByte) ++ rest) := rfl
    rw [hbyte, decode, if_pos rfl, byte?_digits, ih]
    rfl

theorem toNat_le_of_not_isForeign {c : Char} (h : isForeign c = false) :
  c.toNat ≤ 0x7E
  := by
  simpa [isForeign] using (Bool.or_eq_false_iff.mp h).2

/-- A character that is no foreign one takes one byte, which is its number. -/
theorem utf8EncodeChar_of_not_isForeign {c : Char} (h : isForeign c = false) :
  String.utf8EncodeChar c = [UInt8.ofNat c.toNat]
  := by
  have hone : c.val.toNat ≤ 0x7F := Nat.le_succ_of_le (toNat_le_of_not_isForeign h)
  simp only [String.utf8EncodeChar, hone, if_true]
  rfl

/-- Where a percent sign is barred, a written character is read back as its bytes. -/
theorem decode_encodeChar {barred : Char → Bool} (h : barred '%' = true) (c : Char)
    (rest : List UInt8) :
  decode (bytes (encodeChar barred c) ++ rest) = String.utf8EncodeChar c ++ decode rest
  := by
  rw [encodeChar]
  split
  · apply decode_encodeByte
  · next hplain =>
    obtain ⟨hown, hfree⟩ := Bool.or_eq_false_iff.mp (Bool.not_eq_true _ ▸ hplain)
    rw [utf8EncodeChar_of_not_isForeign hown]
    apply decode_cons_of_ne
    intro hpercent
    have hbyte : (UInt8.ofNat c.toNat).toNat = c.toNat := by
      apply Utf8.toNat_ofNat (Nat.lt_of_le_of_lt (toNat_le_of_not_isForeign hown) (by decide))
    have hnumber : c.toNat = 37 := hbyte.symm.trans (congrArg UInt8.toNat hpercent)
    have hself : c = '%' := by
      rw [← Char.ofNat_toNat c, hnumber]
    rw [hself, h] at hfree
    cases hfree

/-- Where a percent sign is barred, the bytes of characters are read back from what is written. -/
theorem decode_encode {barred : Char → Bool} (h : barred '%' = true) (cs : List Char) :
  decode (bytes (encode barred cs)) = cs.flatMap String.utf8EncodeChar
  := by
  induction cs with
  | nil => rfl
  | cons c cs ih =>
    have hfirst : bytes (encode barred (c :: cs))
        = bytes (encodeChar barred c) ++ bytes (encode barred cs) := List.map_append
    rw [hfirst, decode_encodeChar h, ih, List.flatMap_cons]

/-- Where a percent sign is barred, different characters are written differently. -/
theorem encode_injective {barred : Char → Bool} (h : barred '%' = true) :
  Function.Injective (encode barred)
  := by
  intro cs cs' hsame
  have hread := congrArg (fun written => Utf8.read true [] 0 (decode (bytes written))) hsame
  simp only [decode_encode h, Utf8.read_encode] at hread
  exact Option.some.inj hread

end TaskConsole.Percent
