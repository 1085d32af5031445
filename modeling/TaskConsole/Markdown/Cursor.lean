/-!
# Cursors

A `Cursor` stands in the rest of a text, at a column of its line.  Indentation is
counted in columns: `Cursor.skip` goes forward over blanks and tabs, a tab reaching to
the next multiple of four, and may stop inside a tab.  A line ends at a line feed, a
carriage return or both (`afterBreak?`); `lineOf` and `afterLine` cut the first line
off.
-/

namespace TaskConsole.Markdown

/-- Whether a character indents a line. -/
def isIndent (c : Char) : Bool := c = ' ' || c = '\t'

/-- Whether a character is a blank within a line. -/
def isGap (c : Char) : Bool := isIndent c || c = '\x0b' || c = '\x0c'

/-- Whether a character ends a line. -/
def isBreak (c : Char) : Bool := c = '\n' || c = '\r'

/-- Whether a character is a blank or ends a line. -/
def isGapOrBreak (c : Char) : Bool := isGap c || isBreak c

/-- What follows the end of a line; the end of the text ends a line too. -/
def afterBreak? : List Char → Option (List Char)
  | [] => some []
  | '\n' :: rest => some rest
  | '\r' :: '\n' :: rest => some rest
  | '\r' :: rest => some rest
  | _ => none

/-- Whether a line ends here. -/
def atBreak (cs : List Char) : Bool := (afterBreak? cs).isSome

/-- What follows a line that holds blanks only. -/
def afterBlankLine? (cs : List Char) : Option (List Char) := afterBreak? (cs.dropWhile isGap)

/-- The characters of the first line. -/
def lineOf (cs : List Char) : List Char := cs.takeWhile fun c => !isBreak c

/-- What follows the first line. -/
def afterLine (cs : List Char) : List Char :=
  (afterBreak? (cs.dropWhile fun c => !isBreak c)).getD []

/-- The rest of a text: columns that are left of a tab before it, its characters, and
the column where they stand. -/
structure Cursor where
  pending : Nat := 0
  rest : List Char
  column : Nat := 0

namespace Cursor

/-- The number of columns from a column to the next tab stop. -/
def tabWidth (column : Nat) : Nat := 4 - column % 4

/-- Goes forward over blanks by at most so many columns, and says how many of them
were missing. -/
def skip : (columns : Nat) → Cursor → Nat × Cursor
  | 0, c => (0, c)
  | n + 1, c =>
    if 0 < c.pending then skip n { c with pending := c.pending - 1 }
    else match c.rest with
      | ' ' :: rest => skip n { c with rest := rest, column := c.column + 1 }
      | '\t' :: rest =>
        let width := tabWidth c.column
        skip n { pending := width - 1, rest := rest, column := c.column + width }
      | _ => (n + 1, c)

/-- Goes forward over blanks by at most so many columns. -/
def advance (columns : Nat) (c : Cursor) : Cursor := (c.skip columns).2

/-- Goes forward over so many characters that are no blanks. -/
def pass (characters : Nat) (c : Cursor) : Cursor :=
  { c with rest := c.rest.drop characters, column := c.column + characters }

end Cursor

end TaskConsole.Markdown
