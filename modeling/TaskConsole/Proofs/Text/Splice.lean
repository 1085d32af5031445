import TaskConsole.Proofs.Text.Utf8

/-!
# Replacing bytes of a text

Bytes of a text can be replaced only between borders of its characters, and only if this leaves a
text (`Text.splice?`).  The offset at which the character with an index begins is such a border
(`Text.isBorder_offset`), so between two of them the characters are replaced
(`Text.splice?_offset`).
-/

namespace TaskConsole

namespace Utf8

/-- A byte that continues a character begins none. -/
theorem next_of_isTail {b : UInt8} (h : isTail b = true) (rest : List UInt8) :
  next b rest = .broken 1
  := by
  simp only [isTail, Bool.and_eq_true, decide_eq_true_iff, UInt8.le_iff_toNat_le] at h
  have hone : ¬b < 0x80 := by
    rw [UInt8.lt_iff_toNat_lt]
    simp at h ⊢
    omega
  have hmore : ∀ low high : UInt8, 0xC2 ≤ low → ¬(low ≤ b && b ≤ high) = true := by
    intro low high hlow hfits
    simp only [Bool.and_eq_true, decide_eq_true_iff, UInt8.le_iff_toNat_le] at hlow hfits
    simp at h hlow
    omega
  simp only [next, if_neg hone, if_neg (hmore 0xC2 _ (by decide)),
    if_neg (hmore 0xE0 _ (by decide)), if_neg (hmore 0xF0 _ (by decide))]

/-- The first byte of a character continues none. -/
theorem isTail_head_encodeChar {c : Char} {b : UInt8}
    (h : b ∈ (String.utf8EncodeChar c).head?) :
  isTail b = false
  := by
  obtain ⟨first, tail, hbytes, hnext⟩ := next_encodeChar c []
  rw [hbytes] at h
  obtain rfl := Option.some.inj h
  rw [Bool.eq_false_iff]
  intro htail
  rw [next_of_isTail htail] at hnext
  cases hnext

end Utf8

namespace Text

/-- The offsets in bytes at which characters begin, the first of them at a given one. -/
def offsetsFrom (offset : Nat) : List Char → List Nat
  | [] => []
  | c :: cs => offset :: offsetsFrom (offset + c.utf8Size) cs

/-- The offset in bytes at which the character with an index begins, or else that of the end. -/
def offset (text : String) (index : Nat) : Nat :=
  (offsetsFrom 0 text.toList)[index]?.getD (Utf8.encode text).length

/-- Whether an offset is a border of characters: at the front of the bytes, at their end, or at a
byte that begins a character. -/
def isBorder (bytes : List UInt8) (offset : Nat) : Bool :=
  offset = 0 || bytes[offset]?.elim (offset = bytes.length) fun b => !Utf8.isTail b

/-- The text with other bytes between two offsets, which have to be borders of characters and in
order. -/
def splice? (text : String) (start stop : Nat) (between : List UInt8) : Option String :=
  let bytes := Utf8.encode text
  if start ≤ stop && isBorder bytes start && isBorder bytes stop then
    Utf8.decode? (bytes.take start ++ between ++ bytes.drop stop)
  else none

/-- The bytes of the characters in front of an index end where the character with it begins. -/
theorem offsetsFrom_getD (cs : List Char) (offset index : Nat) :
  (offsetsFrom offset cs)[index]?.getD (offset + (cs.flatMap String.utf8EncodeChar).length)
    = offset + ((cs.take index).flatMap String.utf8EncodeChar).length
  := by
  induction cs generalizing offset index with
  | nil =>
    rw [List.take_nil]
    rfl
  | cons c cs ih =>
    cases index with
    | zero => rfl
    | succ index =>
      have hsize : (String.utf8EncodeChar c).length = c.utf8Size :=
        String.length_utf8EncodeChar c
      rw [offsetsFrom, List.getElem?_cons_succ, List.take_succ_cons, List.flatMap_cons,
        List.flatMap_cons, List.length_append, List.length_append, hsize, ← Nat.add_assoc,
        ← Nat.add_assoc, ih]

section

variable (text : String) (index : Nat)

/-- The offset of an index is the number of bytes of the characters in front of it. -/
theorem offset_eq :
  offset text index = (Utf8.encode (String.ofList (text.toList.take index))).length
  := by
  have hall := offsetsFrom_getD text.toList 0 index
  rw [Nat.zero_add, Nat.zero_add] at hall
  rw [offset, Utf8.encode_eq, Utf8.encode_eq, String.toList_ofList, hall]

/-- The bytes of a text are those of the characters in front of an index and behind it. -/
theorem encode_take_append_drop :
  Utf8.encode (String.ofList (text.toList.take index))
      ++ Utf8.encode (String.ofList (text.toList.drop index))
    = Utf8.encode text
  := by
  rw [← Utf8.encode_append, ← String.ofList_append, List.take_append_drop, String.ofList_toList]

theorem take_offset :
  (Utf8.encode text).take (offset text index)
    = Utf8.encode (String.ofList (text.toList.take index))
  := by
  rw [offset_eq, ← encode_take_append_drop text index, List.take_left]

theorem drop_offset :
  (Utf8.encode text).drop (offset text index)
    = Utf8.encode (String.ofList (text.toList.drop index))
  := by
  rw [offset_eq, ← encode_take_append_drop text index, List.drop_left]

theorem offset_le_length :
  offset text index ≤ (Utf8.encode text).length
  := by
  rw [offset_eq, ← encode_take_append_drop text index, List.length_append]
  apply Nat.le_add_right

/-- Where a character begins, there is a border. -/
theorem isBorder_offset :
  isBorder (Utf8.encode text) (offset text index) = true
  := by
  have hbehind := drop_offset text index
  rw [Utf8.encode_eq (String.ofList _), String.toList_ofList] at hbehind
  rw [isBorder, Bool.or_eq_true, ← List.head?_drop, hbehind]
  right
  cases hrest : text.toList.drop index with
  | nil =>
    rw [hrest] at hbehind
    have hend := List.drop_eq_nil_iff.mp hbehind
    exact decide_eq_true (Nat.le_antisymm (offset_le_length text index) hend)
  | cons c cs =>
    obtain ⟨first, tail, hbytes, -⟩ := Utf8.next_encodeChar c []
    have hhead := Utf8.isTail_head_encodeChar (c := c) (b := first) (by rw [hbytes]; rfl)
    rw [List.flatMap_cons, hbytes, List.cons_append, List.head?_cons, Option.elim_some, hhead]
    rfl

end

/-- A later character begins at no smaller offset. -/
theorem offset_mono (text : String) {index index' : Nat} (h : index ≤ index') :
  offset text index ≤ offset text index'
  := by
  rw [offset_eq, offset_eq, Utf8.encode_eq, Utf8.encode_eq, String.toList_ofList,
    String.toList_ofList]
  apply List.IsPrefix.length_le
  obtain ⟨more, hmore⟩ := List.take_prefix_take_left (l := text.toList) h
  use more.flatMap String.utf8EncodeChar
  rw [← List.flatMap_append, hmore]

/-- Between the offsets of two characters, the characters are replaced. -/
theorem splice?_offset (text : String) {index index' : Nat} (h : index ≤ index')
    (between : String) :
  splice? text (offset text index) (offset text index') (Utf8.encode between)
    = some (String.ofList (text.toList.take index) ++ between
      ++ String.ofList (text.toList.drop index'))
  := by
  rw [splice?, isBorder_offset, isBorder_offset, take_offset, drop_offset, ← Utf8.encode_append,
    ← Utf8.encode_append, Utf8.decode?_encode, decide_eq_true (offset_mono text h)]
  rfl

end Text

end TaskConsole
