/-!
# The prompt

The `Prompt` is the line that the user types: its characters and the number of them
in front of the cursor.  `Prompt.window` is the part of it that fits into a width and
shows the cursor.
-/

namespace TaskConsole

/-- A line of text with a cursor in it. -/
structure Prompt where
  chars : List Char := []
  cursor : Nat := 0
deriving DecidableEq, Inhabited

namespace Prompt

/-- The text of the line. -/
def text (p : Prompt) : String := String.ofList p.chars

/-- Puts a character in front of the cursor. -/
def insert (p : Prompt) (c : Char) : Prompt where
  chars := p.chars.take p.cursor ++ c :: p.chars.drop p.cursor
  cursor := p.cursor + 1

/-- Takes the character in front of the cursor away. -/
def backspace (p : Prompt) : Prompt :=
  if p.cursor = 0 then p
  else
    { chars := p.chars.take (p.cursor - 1) ++ p.chars.drop p.cursor
      cursor := p.cursor - 1 }

/-- Takes the character behind the cursor away. -/
def delete (p : Prompt) : Prompt :=
  { p with chars := p.chars.take p.cursor ++ p.chars.drop (p.cursor + 1) }

/-- Moves the cursor to the front. -/
def home (p : Prompt) : Prompt := { p with cursor := 0 }

/-- Moves the cursor to the end. -/
def toEnd (p : Prompt) : Prompt := { p with cursor := p.chars.length }

/-- Moves the cursor one character to the left. -/
def left (p : Prompt) : Prompt := { p with cursor := p.cursor - 1 }

/-- Moves the cursor one character to the right. -/
def right (p : Prompt) : Prompt := { p with cursor := min (p.cursor + 1) p.chars.length }

/-- What a width shows of a line, and the column of the cursor in it. -/
structure Window where
  visible : List Char
  column : Nat
deriving DecidableEq, Inhabited

/-- Columns are kept modulo this number. -/
def columnModulus : Nat := 65536

/-- The number of characters that a width hides at the front; a cursor at the end has
a cell of its own. -/
def hidden (width cursor : Nat) : Nat := cursor + 1 - width

/-- The part of the characters that a width shows around a cursor; a width of 0 counts
as 1, and a cursor beyond the end stands at the end. -/
def window (chars : List Char) (cursor width : Nat) : Window :=
  let cursor := min cursor chars.length
  let start := hidden (max width 1) cursor
  { visible := (chars.drop start).take (max width 1)
    column := (cursor - start) % columnModulus }

end Prompt

end TaskConsole
