import TaskConsole.Styled.Basic
import TaskConsole.Text.Blank

/-!
# Wrapping a styled line

`Line.wrap` breaks a line into rows of at most the given number of characters.  A
line that fits is kept as it is.  Otherwise the line feeds are left out, a word that
fits into a row of its own is moved to the next row rather than broken, the spaces
at which a row was broken belong to no row, and each row keeps the styles of its
characters and the style of the line.
-/

namespace TaskConsole

/-- A character with its style. -/
abbrev Cell := Char × Style

namespace Wrap

/-- The largest column; a column does not count beyond it. -/
def columnCap : Nat := 65535

/-- Lengths of words are kept modulo this number. -/
def wordModulus : Nat := 65536

/-- The rows filled so far: those that are finished, newest first, and the current
one, its last cell first. -/
structure Rows where
  done : List (List Cell) := []
  current : List Cell := []
  col : Nat := 0

/-- The length of the word at the front of the cells. -/
def wordLength (cells : List Cell) : Nat :=
  (cells.takeWhile fun cell => !Text.isBlank cell.1).length % wordModulus

/-- Whether the row is left before the cells that follow: they begin with a word that
does not fit any more, but fits into a row. -/
def leavesBefore (width col : Nat) (previous : Option Cell) (rest : List Cell) : Bool :=
  match rest with
  | [] => false
  | cell :: _ =>
    col != 0 && !Text.isBlank cell.1
      && (match previous with
        | some p => Text.isBlank p.1
        | none => true)
      && (let word := wordLength rest
          word ≤ width && width < min columnCap (col + word))

/-- Starts a new row. -/
def Rows.turn (rows : Rows) : Rows :=
  { done := rows.current :: rows.done, current := [], col := 0 }

/-- Puts a cell into the current row; a row after the first takes no space at its
front. -/
def Rows.put (rows : Rows) (cell : Cell) : Rows :=
  if rows.col = 0 && !rows.done.isEmpty && cell.1 = ' ' then rows
  else { rows with current := cell :: rows.current, col := min columnCap (rows.col + 1) }

/-- Fills rows with the cells. -/
def fill (width : Nat) (previous : Option Cell) (rows : Rows) : List Cell → Rows
  | [] => rows
  | cell :: rest =>
    let turned :=
      if leavesBefore width rows.col previous (cell :: rest) || width ≤ rows.col then rows.turn
      else rows
    fill width (some cell) (turned.put cell) rest

/-- The finished rows without the spaces at their backs, and the last row as it is. -/
def Rows.toList (rows : Rows) : List (List Cell) :=
  (rows.current.reverse ::
    rows.done.map fun row => (row.dropWhile fun cell => cell.1 = ' ').reverse).reverse

/-- The rows into which the cells are broken. -/
def rows (width : Nat) (cells : List Cell) : List (List Cell) :=
  (fill width none {} cells).toList

end Wrap

/-- The cells of a row as spans, one for each run of equal style. -/
def spansOf (row : List Cell) : List Span :=
  (row.splitBy fun a b => a.2 = b.2).filterMap fun run =>
    run.head?.map fun first => { text := String.ofList (run.map Prod.fst), style := first.2 }

/-- The rows of at most `width` characters into which a line is broken; a width of 0
counts as 1. -/
def Line.wrap (line : Line) (width : Nat) : List Line :=
  let cells := line.cells.filter fun cell => cell.1 != '\n'
  if cells.length ≤ max width 1 then [line]
  else (Wrap.rows (max width 1) cells).map fun row => { spans := spansOf row, style := line.style }

end TaskConsole
