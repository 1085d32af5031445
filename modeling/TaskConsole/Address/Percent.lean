import TaskConsole.Number.Hex

/-!
# Percent encoding

A character that may not stand in an address is written by its bytes, each as a
percent sign and two hexadecimal digits.  `Percent.encode` writes characters so,
`Percent.decode` goes back to the bytes, and the predicates say which characters each
place of an address leaves as they are.
-/

namespace TaskConsole.Percent

/-- A byte as a percent sign and two digits. -/
def encodeByte (b : UInt8) : List Char :=
  ['%', Number.hexCapital (b.toNat / 16), Number.hexCapital (b.toNat % 16)]

/-- Whether a character is written by its bytes wherever it stands: a control
character, or one beyond ASCII. -/
def isForeign (c : Char) : Bool := c.toNat < 0x20 || 0x7E < c.toNat

/-- A character in a place with further characters that may not stand there. -/
def encodeChar (barred : Char → Bool) (c : Char) : List Char :=
  if isForeign c || barred c then (String.utf8EncodeChar c).flatMap encodeByte else [c]

/-- Characters in a place with further characters that may not stand there. -/
def encode (barred : Char → Bool) (cs : List Char) : List Char :=
  cs.flatMap (encodeChar barred)

/-- What may not stand in a fragment. -/
def inFragment (c : Char) : Bool :=
  c = ' ' || c = '"' || c = '<' || c = '>' || c = '\x60'

/-- What may not stand in a query; the apostrophe only in that of a web address. -/
def inQuery (web : Bool) (c : Char) : Bool :=
  c = ' ' || c = '"' || c = '#' || c = '<' || c = '>' || (web && c = '\x27')

/-- What may not stand in a path. -/
def inPath (c : Char) : Bool :=
  inFragment c || c = '#' || c = '?' || c = '\x7b' || c = '\x7d'

/-- What may not stand in a single segment of a path; the backslash ends a segment only
in a web address. -/
def inSegment (web : Bool) (c : Char) : Bool :=
  inPath c || c = '/' || c = '%' || (web && c = '\\')

/-- What may not stand in the name of a user. -/
def inUser (c : Char) : Bool :=
  inPath c || c = '/' || c = ':' || c = ';' || c = '=' || c = '@' || c = '[' || c = '\\'
    || c = ']' || c = '^' || c = '|'

/-- What may not stand elsewhere is nothing but foreign characters. -/
def inRest (_ : Char) : Bool := false

/-- The byte of two hexadecimal digits. -/
def byte? (high low : UInt8) : Option UInt8 := do
  let h ← Number.hexValue? (Char.ofNat high.toNat)
  let l ← Number.hexValue? (Char.ofNat low.toNat)
  return UInt8.ofNat (h * 16 + l)

/-- The bytes that encoded bytes stand for. -/
def decode : List UInt8 → List UInt8
  | b :: high :: low :: rest =>
    if b = 37 then
      match byte? high low with
      | some byte => byte :: decode rest
      | none => b :: decode (high :: low :: rest)
    else b :: decode (high :: low :: rest)
  | rest => rest

end TaskConsole.Percent
