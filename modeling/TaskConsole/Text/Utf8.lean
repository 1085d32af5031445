/-!
# UTF-8

`Utf8.decode?` reads bytes that are valid throughout, and `Utf8.decodeLossy` puts the
replacement character in the place of each part that cannot begin a character.
`Utf8.next` is the step of both: the longest valid beginning of a character at the
front of the bytes, or how many bytes to replace.
-/

namespace TaskConsole.Utf8

/-- What stands at the front of bytes: a character, or so many bytes that form none. -/
inductive Step where
  | char (c : Char) (size : Nat)
  | broken (size : Nat)

/-- Whether a byte continues a character. -/
def isTail (b : UInt8) : Bool := 0x80 ≤ b && b ≤ 0xBF

/-- The low six bits of a byte. -/
def tailBits (b : UInt8) : Nat := b.toNat % 64

/-- The range of a second byte behind a first one. -/
def secondRange (first : UInt8) : UInt8 × UInt8 :=
  if first = 0xE0 then (0xA0, 0xBF)
  else if first = 0xED then (0x80, 0x9F)
  else if first = 0xF0 then (0x90, 0xBF)
  else if first = 0xF4 then (0x80, 0x8F)
  else (0x80, 0xBF)

/-- What stands at the front of a byte and those behind it. -/
def next (first : UInt8) (rest : List UInt8) : Step :=
  let range := secondRange first
  let fits (b : UInt8) : Bool := range.1 ≤ b && b ≤ range.2
  if first < 0x80 then .char (Char.ofNat first.toNat) 1
  else if 0xC2 ≤ first && first ≤ 0xDF then
    match rest with
    | a :: _ =>
      if fits a then .char (Char.ofNat (first.toNat % 32 * 64 + tailBits a)) 2 else .broken 1
    | [] => .broken 1
  else if 0xE0 ≤ first && first ≤ 0xEF then
    match rest with
    | a :: b :: _ =>
      if !fits a then .broken 1
      else if !isTail b then .broken 2
      else .char (Char.ofNat (first.toNat % 16 * 4096 + tailBits a * 64 + tailBits b)) 3
    | [a] => if fits a then .broken 2 else .broken 1
    | [] => .broken 1
  else if 0xF0 ≤ first && first ≤ 0xF4 then
    match rest with
    | a :: b :: c :: _ =>
      if !fits a then .broken 1
      else if !isTail b then .broken 2
      else if !isTail c then .broken 3
      else .char (Char.ofNat
        (first.toNat % 8 * 262144 + tailBits a * 4096 + tailBits b * 64 + tailBits c)) 4
    | [a, b] => if !fits a then .broken 1 else if !isTail b then .broken 2 else .broken 3
    | [a] => if fits a then .broken 2 else .broken 1
    | [] => .broken 1
  else .broken 1

/-- Reads bytes; `skip` of them belong to what was read before.  The characters so far
come with the last one first. -/
def read (lossy : Bool) (chars : List Char) : (skip : Nat) → List UInt8 → Option (List Char)
  | _, [] => some chars.reverse
  | skip + 1, _ :: rest => read lossy chars skip rest
  | 0, b :: rest =>
    match next b rest with
    | .char c size => read lossy (c :: chars) (size - 1) rest
    | .broken size =>
      if lossy then read lossy (Char.ofNat 0xFFFD :: chars) (size - 1) rest else none

/-- The text of bytes that are valid throughout. -/
def decode? (bytes : List UInt8) : Option String := (read false [] 0 bytes).map String.ofList

/-- The text of bytes, with the replacement character for what is not valid. -/
def decodeLossy (bytes : List UInt8) : String := String.ofList ((read true [] 0 bytes).getD [])

/-- The bytes of a text. -/
def encode (text : String) : List UInt8 := text.toUTF8.toList

end TaskConsole.Utf8
