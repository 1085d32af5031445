/-!
# Blank characters

`isBlank` is the Unicode property `White_Space`.  Texts are trimmed by it
(`trim`, `trimStart`, `trimEnd`), cut into words (`words`) and joined again with
single spaces (`singleLine`).  `lines` cuts a text at its line feeds, where a
carriage return directly before a line feed belongs to the break and a final line
feed opens no further line.
-/

namespace TaskConsole.Text

/-- The first and last code point of each run of characters with the property
`White_Space`. -/
def blankRanges : List (Nat × Nat) :=
  [(0x9, 0xD), (0x20, 0x20), (0x85, 0x85), (0xA0, 0xA0), (0x1680, 0x1680),
   (0x2000, 0x200A), (0x2028, 0x2029), (0x202F, 0x202F), (0x205F, 0x205F),
   (0x3000, 0x3000)]

/-- Whether a code point lies in one of the ranges, ends included. -/
def inRanges (ranges : List (Nat × Nat)) (code : Nat) : Bool :=
  ranges.any fun range => range.1 ≤ code && code ≤ range.2

/-- Whether a character has the property `White_Space`. -/
def isBlank (c : Char) : Bool :=
  inRanges blankRanges c.toNat

/-- Whether a text holds blank characters only; the empty text does. -/
def isBlankText (text : String) : Bool :=
  text.toList.all isBlank

/-- The characters without the blank ones at their front. -/
def dropBlankStart (cs : List Char) : List Char :=
  cs.dropWhile isBlank

/-- The characters without the blank ones at their back. -/
def dropBlankEnd (cs : List Char) : List Char :=
  (cs.reverse.dropWhile isBlank).reverse

/-- The text without the blank characters at its front. -/
def trimStart (text : String) : String :=
  String.ofList (dropBlankStart text.toList)

/-- The text without the blank characters at its back. -/
def trimEnd (text : String) : String :=
  String.ofList (dropBlankEnd text.toList)

/-- The text without the blank characters at either end. -/
def trim (text : String) : String :=
  String.ofList (dropBlankEnd (dropBlankStart text.toList))

/-- The longest runs of characters that are not blank, in order. -/
def words (text : String) : List String :=
  ((text.toList.splitBy fun a b => isBlank a == isBlank b).filter
    fun run => !run.all isBlank).map String.ofList

/-- The words of a text with one space between neighbours. -/
def singleLine (text : String) : String :=
  " ".intercalate (words text)

/-- Puts a character in front of the first line. -/
def consLine (c : Char) : List (List Char) → List (List Char)
  | [] => [[c]]
  | line :: rest => (c :: line) :: rest

/-- One character of a text, read from its back: the lines found so far, and
whether the character after this one is a line feed. -/
def lineStep (c : Char) (found : List (List Char) × Bool) : List (List Char) × Bool :=
  if c = '\n' then ([] :: found.1, true)
  else if c = '\r' && found.2 then (found.1, false)
  else (consLine c found.1, false)

/-- The lines of a list of characters. -/
def lineChars (cs : List Char) : List (List Char) :=
  (cs.foldr lineStep ([], false)).1

/-- The lines of a text. -/
def lines (text : String) : List String :=
  (lineChars text.toList).map String.ofList

end TaskConsole.Text
