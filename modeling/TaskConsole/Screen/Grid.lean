import TaskConsole.Screen.Area
import TaskConsole.Styled.Basic
import TaskConsole.Text.Cluster

/-!
# The grid of cells

A `Grid` holds the cells of a screen row by row.  `Grid.paint` lays a style over an
area, `Grid.clear` empties it, and `Grid.paragraph` writes lines into it: each line
stands in a row of its own and is cut where the next cluster does not fit any more.
-/

namespace TaskConsole

/-- A cell of the screen: the cluster that it shows, its colours and its modifiers. -/
structure ScreenCell where
  symbol : List Char := [' ']
  fg : Color := .reset
  bg : Color := .reset
  modifiers : Modifiers := {}
deriving DecidableEq, Inhabited

namespace ScreenCell

/-- The cell with a style laid over its appearance. -/
def restyle (cell : ScreenCell) (style : Style) : ScreenCell :=
  { cell with
    fg := style.fg.getD cell.fg
    bg := style.bg.getD cell.bg
    modifiers := (cell.modifiers.union style.added).diff style.removed }

/-- The appearance of a cell; the colours of the terminal itself are not named. -/
def style (cell : ScreenCell) : Style where
  fg := if cell.fg = .reset then none else some cell.fg
  bg := if cell.bg = .reset then none else some cell.bg
  added := cell.modifiers

end ScreenCell

/-- The cells of a screen, row by row. -/
structure Grid where
  width : Nat
  height : Nat
  cells : Array ScreenCell
deriving Inhabited

namespace Grid

/-- The screen with nothing on it. -/
def blank (width height : Nat) : Grid :=
  { width := width, height := height, cells := Array.replicate (width * height) {} }

/-- The area of all cells. -/
def area (g : Grid) : Area := .screen g.width g.height

/-- Changes the cell at a place; there is no change beside the screen. -/
def modify (g : Grid) (x y : Nat) (f : ScreenCell → ScreenCell) : Grid :=
  if x < g.width && y < g.height then { g with cells := g.cells.modify (y * g.width + x) f } else g

/-- Changes the cells of an area. -/
def modifyArea (g : Grid) (a : Area) (f : ScreenCell → ScreenCell) : Grid :=
  (List.range a.height).foldl (fun g row =>
    (List.range a.width).foldl (fun g col => g.modify (a.x + col) (a.y + row) f) g) g

/-- Lays a style over an area. -/
def paint (g : Grid) (a : Area) (style : Style) : Grid := g.modifyArea a fun c => c.restyle style

/-- Empties an area. -/
def clear (g : Grid) (a : Area) : Grid := g.modifyArea a fun _ => {}

/-- A cluster with its style. -/
abbrev Glyph := List Char × Style

/-- The clusters of a line over a style; line feeds are left out. -/
def glyphs (base : Style) (line : Line) : List Glyph :=
  let base := base.patch line.style
  line.spans.flatMap fun span =>
    ((Text.clusters span.text.toList).filter fun cluster => cluster != ['\n']).map fun cluster =>
      (cluster, base.patch span.style)

/-- The clusters that fit into a width, up to the first that does not; those wider than
the whole width are left out. -/
def fit (width : Nat) (used : Nat) : List Glyph → List Glyph
  | [] => []
  | glyph :: rest =>
    let columns := Text.columnsOf glyph.1
    if width < columns then fit width used rest
    else if width < used + columns then []
    else glyph :: fit width (used + columns) rest

/-- The number of columns of clusters. -/
def glyphColumns (glyphs : List Glyph) : Nat :=
  glyphs.foldr (fun g columns => Text.columnsOf g.1 + columns) 0

/-- Writes clusters from a place to the right; those without columns are left out. -/
def write (g : Grid) (x y : Nat) : List Glyph → Grid
  | [] => g
  | (cluster, style) :: rest =>
    let columns := Text.columnsOf cluster
    if columns = 0 then write g x y rest
    else
      let g := g.modify x y fun cell => { cell with symbol := cluster }.restyle style
      write g (x + columns) y rest

/-- Where the lines of a paragraph stand in its area. -/
inductive Alignment where
  | left | right
deriving DecidableEq

/-- Writes a line at the top of an area. -/
def line (g : Grid) (a : Area) (alignment : Alignment) (base : Style) (l : Line) : Grid :=
  let shown := fit a.width 0 (glyphs base l)
  let offset := match alignment with
    | .left => 0
    | .right => a.width - glyphColumns shown
  g.write (a.x + offset) a.y shown

/-- Writes lines below each other, as many as an area has rows. -/
def linesIn (g : Grid) (a : Area) (alignment : Alignment) (lines : List Line) : Grid :=
  if a.isEmpty then g
  else (lines.take a.height).zipIdx.foldl
    (fun g l => g.line { a with y := a.y + l.2, height := 1 } alignment {} l.1) g

/-- Paints an area with the style of a paragraph and of its frame, then writes its lines
within the border. -/
def paragraph (g : Grid) (a : Area) (style frame : Style) (border : Padding)
    (alignment : Alignment) (lines : List Line) : Grid :=
  let inner := a.padded border
  (((g.paint a style).paint a frame).paint inner style).linesIn inner alignment lines

/-- The cells of a row, from the left to the right. -/
def row (g : Grid) (y : Nat) : List ScreenCell :=
  (g.cells.extract (y * g.width) ((y + 1) * g.width)).toList

/-- A row as spans, one for each run of cells that look alike. -/
def rowSpans (g : Grid) (y : Nat) : List Span :=
  ((g.row y).splitBy fun a b => a.style = b.style).filterMap fun run =>
    run.head?.map fun first =>
      { text := String.ofList (run.flatMap ScreenCell.symbol), style := first.style }

/-- All rows as spans. -/
def rows (g : Grid) : List (List Span) := (List.range g.height).map g.rowSpans

end Grid

/-- What the terminal shows: the cells, and the place of the cursor if it is shown. -/
structure Frame where
  grid : Grid
  cursor : Option (Nat × Nat) := none

end TaskConsole
