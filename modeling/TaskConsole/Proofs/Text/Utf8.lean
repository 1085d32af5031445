import Mathlib.Data.List.Basic
import TaskConsole.Text.Utf8

/-!
# Texts as bytes

A text is written as the bytes of its characters, one after another (`Utf8.encode_eq`), and
reading them gives the text back (`Utf8.decode?_encode`): what stands at the front of the bytes
of a character is that character (`Utf8.next_encodeChar`).
-/

namespace TaskConsole.Utf8

/-! ### Writing -/

/-- The list of the bytes of an array, of which some have been taken. -/
theorem toList_loop (bytes : ByteArray) (i : Nat) (before : List UInt8) :
  ByteArray.toList.loop bytes i before = before.reverse ++ bytes.data.toList.drop i
  := by
  fun_induction ByteArray.toList.loop bytes i before with
  | case1 i before hlt ih =>
    have hnext : bytes.data.toList.drop i = bytes.get! i :: bytes.data.toList.drop (i + 1) := by
      simpa [ByteArray.get!, hlt] using
        List.drop_eq_getElem_cons (l := bytes.data.toList) (i := i) hlt
    rw [ih, hnext, List.reverse_cons, List.append_assoc, List.singleton_append]
  | case2 i before hge =>
    have hlength : bytes.data.toList.length ≤ i := Nat.le_of_not_lt hge
    rw [List.drop_eq_nil_of_le hlength, List.append_nil]

/-- A text is written as the bytes of its characters. -/
theorem encode_eq (text : String) :
  encode text = text.toList.flatMap String.utf8EncodeChar
  := by
  rw [encode, String.toUTF8_eq_toByteArray, ByteArray.toList, toList_loop]
  conv_lhs => rw [← String.ofList_toList (s := text)]
  rw [String.toByteArray_ofList, List.utf8Encode, List.data_toByteArray]
  rfl

theorem encode_append (text text' : String) :
  encode (text ++ text') = encode text ++ encode text'
  := by
  rw [encode_eq, encode_eq, encode_eq, String.toList_append, List.flatMap_append]

/-! ### Reading -/

/-- The number of a byte. -/
theorem toNat_ofNat {n : Nat} (h : n < 256) :
  (UInt8.ofNat n).toNat = n
  := by
  rw [UInt8.toNat_ofNat']
  omega

/-- A byte that continues a character. -/
theorem isTail_ofNat {n : Nat} (h : n < 64) :
  isTail (UInt8.ofNat (n + 128)) = true
  := by
  have hbyte := toNat_ofNat (n := n + 128) (by omega)
  simp only [isTail, Bool.and_eq_true, decide_eq_true_iff, UInt8.le_iff_toNat_le, hbyte]
  simp
  omega

/-- The bits of a byte that continues a character. -/
theorem tailBits_ofNat {n : Nat} (h : n < 64) :
  tailBits (UInt8.ofNat (n + 128)) = n
  := by
  rw [tailBits, toNat_ofNat (by omega)]
  omega

/-- A second byte continues a character, unless the first byte asks for more. -/
theorem fits_ofNat {first : UInt8} {n : Nat} (h : n < 64)
    (hE0 : first.toNat = 0xE0 → 32 ≤ n) (hED : first.toNat = 0xED → n < 32)
    (hF0 : first.toNat = 0xF0 → 16 ≤ n) (hF4 : first.toNat = 0xF4 → n < 16) :
  ((secondRange first).1 ≤ UInt8.ofNat (n + 128)
    && UInt8.ofNat (n + 128) ≤ (secondRange first).2) = true
  := by
  have hbyte := toNat_ofNat (n := n + 128) (by omega)
  simp only [Bool.and_eq_true, decide_eq_true_iff, UInt8.le_iff_toNat_le, hbyte]
  simp only [← UInt8.toNat_inj, secondRange]
  split
  · next hfirst => simp at *; omega
  split
  · next hfirst => simp at *; omega
  split
  · next hfirst => simp at *; omega
  split
  · next hfirst => simp at *; omega
  · simp; omega

section Lengths

variable {first a b c : UInt8}
  (ha : ((secondRange first).1 ≤ a && a ≤ (secondRange first).2) = true)

/-- A first byte below 128 is a character. -/
theorem next_one (h : first.toNat < 0x80) (rest : List UInt8) :
  next first rest = .char (Char.ofNat first.toNat) 1
  := by
  have hone : first < 0x80 := UInt8.lt_iff_toNat_lt.mpr h
  simp only [next, if_pos hone]

include ha

/-- A character of two bytes. -/
theorem next_two (h : 0xC2 ≤ first.toNat) (h' : first.toNat ≤ 0xDF) (rest : List UInt8) :
  next first (a :: rest) = .char (Char.ofNat (first.toNat % 32 * 64 + tailBits a)) 2
  := by
  have hmore : ¬first < 0x80 := by
    rw [UInt8.lt_iff_toNat_lt]
    simp
    omega
  have htwo : (0xC2 ≤ first && first ≤ 0xDF) = true := by
    simp [UInt8.le_iff_toNat_le, h, h']
  simp only [next, if_neg hmore, htwo, if_true, ha]

/-- A character of three bytes. -/
theorem next_three (h : 0xE0 ≤ first.toNat) (h' : first.toNat ≤ 0xEF)
    (hb : isTail b = true) (rest : List UInt8) :
  next first (a :: b :: rest)
    = .char (Char.ofNat (first.toNat % 16 * 4096 + tailBits a * 64 + tailBits b)) 3
  := by
  have hmore : ¬first < 0x80 := by
    rw [UInt8.lt_iff_toNat_lt]
    simp
    omega
  have htwo : ¬(0xC2 ≤ first && first ≤ 0xDF) = true := by
    simp [UInt8.le_iff_toNat_le]
    omega
  have hthree : (0xE0 ≤ first && first ≤ 0xEF) = true := by
    simp [UInt8.le_iff_toNat_le, h, h']
  simp only [next, if_neg hmore, if_neg htwo, hthree, if_true, ha, hb, Bool.not_true,
    Bool.false_eq_true, if_false]

/-- A character of four bytes. -/
theorem next_four (h : 0xF0 ≤ first.toNat) (h' : first.toNat ≤ 0xF4)
    (hb : isTail b = true) (hc : isTail c = true) (rest : List UInt8) :
  next first (a :: b :: c :: rest)
    = .char (Char.ofNat
      (first.toNat % 8 * 262144 + tailBits a * 4096 + tailBits b * 64 + tailBits c)) 4
  := by
  have hmore : ¬first < 0x80 := by
    rw [UInt8.lt_iff_toNat_lt]
    simp
    omega
  have htwo : ¬(0xC2 ≤ first && first ≤ 0xDF) = true := by
    simp [UInt8.le_iff_toNat_le]
    omega
  have hthree : ¬(0xE0 ≤ first && first ≤ 0xEF) = true := by
    simp [UInt8.le_iff_toNat_le]
    omega
  have hfour : (0xF0 ≤ first && first ≤ 0xF4) = true := by
    simp [UInt8.le_iff_toNat_le, h, h']
  simp only [next, if_neg hmore, if_neg htwo, if_neg hthree, hfour, if_true, ha, hb, hc,
    Bool.not_true, Bool.false_eq_true, if_false]

end Lengths

/-- At the front of the bytes of a character stands that character. -/
theorem next_encodeChar (c : Char) (rest : List UInt8) :
  ∃ first tail, String.utf8EncodeChar c = first :: tail
    ∧ next first (tail ++ rest) = .char c (tail.length + 1)
  := by
  have hvalid : c.toNat < 0xD800 ∨ 0xDFFF < c.toNat ∧ c.toNat < 0x110000 := c.valid
  have hself : Char.ofNat c.toNat = c := Char.ofNat_toNat c
  rw [String.utf8EncodeChar]
  generalize hn : c.toNat = n at hvalid hself
  have hval : c.val.toNat = n := hn
  rw [hval]
  clear hval hn
  split
  · have hfirst := toNat_ofNat (n := n) (by omega)
    refine ⟨_, _, rfl, ?_⟩
    rw [next_one (by omega), hfirst, hself]
    rfl
  split
  · have hfirst := toNat_ofNat (n := n / 64 % 32 + 192) (by omega)
    refine ⟨_, _, rfl, ?_⟩
    rw [List.singleton_append, next_two (fits_ofNat _ _ _ _ _), hfirst, tailBits_ofNat, ← hself]
    · congr 2
      omega
    all_goals omega
  split
  · have hfirst := toNat_ofNat (n := n / 4096 % 16 + 224) (by omega)
    refine ⟨_, _, rfl, ?_⟩
    rw [List.cons_append, List.singleton_append,
      next_three (fits_ofNat _ _ _ _ _) _ _ (isTail_ofNat _), hfirst, tailBits_ofNat,
      tailBits_ofNat, ← hself]
    · congr 2
      omega
    all_goals omega
  · have hfirst := toNat_ofNat (n := n / 262144 % 8 + 240) (by omega)
    refine ⟨_, _, rfl, ?_⟩
    rw [List.cons_append, List.cons_append, List.singleton_append,
      next_four (fits_ofNat _ _ _ _ _) _ _ (isTail_ofNat _) (isTail_ofNat _), hfirst,
      tailBits_ofNat, tailBits_ofNat, tailBits_ofNat, ← hself]
    · congr 2
      omega
    all_goals omega

/-- Reading leaves out the bytes that belong to what was read before. -/
theorem read_append (lossy : Bool) (chars : List Char) (before rest : List UInt8) :
  read lossy chars before.length (before ++ rest) = read lossy chars 0 rest
  := by
  induction before with
  | nil => rfl
  | cons b before ih => exact ih

/-- Reading the bytes of characters gives the characters, after those that were read before. -/
theorem read_encode (lossy : Bool) (before chars : List Char) :
  read lossy before 0 (chars.flatMap String.utf8EncodeChar) = some (before.reverse ++ chars)
  := by
  induction chars generalizing before with
  | nil =>
    rw [List.append_nil]
    rfl
  | cons c chars ih =>
    obtain ⟨first, tail, hbytes, hnext⟩ :=
      next_encodeChar c (chars.flatMap String.utf8EncodeChar)
    rw [List.flatMap_cons, hbytes, List.cons_append, read, hnext]
    simp only [Nat.add_sub_cancel]
    rw [read_append, ih, List.reverse_cons, List.append_assoc, List.singleton_append]

/-- The bytes of a text are read as the text. -/
theorem decode?_encode (text : String) :
  decode? (encode text) = some text
  := by
  rw [decode?, encode_eq, read_encode, Option.map_some, List.reverse_nil, List.nil_append,
    String.ofList_toList]

/-- The byte of a line feed stands in the bytes of that character only. -/
theorem lineFeed_mem_encodeChar_iff (c : Char) :
  10 ∈ String.utf8EncodeChar c ↔ c = '\n'
  := by
  constructor
  · intro h
    have hself : Char.ofNat c.val.toNat = c := Char.ofNat_toNat c
    rw [String.utf8EncodeChar] at h
    generalize c.val.toNat = n at h hself
    -- of several bytes every one is 128 at least
    have hcode : n = 10 := by
      split at h
      · simp [← UInt8.toNat_inj] at h
        omega
      split at h
      · simp [← UInt8.toNat_inj] at h
        omega
      split at h
      · simp [← UInt8.toNat_inj] at h
        omega
      · simp [← UInt8.toNat_inj] at h
        omega
    rw [← hself, hcode]
  · rintro rfl
    decide

end TaskConsole.Utf8
