import TaskConsole.Screen.Grid

/-!
# What a terminal is told

A terminal shows the text that it gets, and follows the control sequences in it.
`Terminal.paint` is the text that shows a frame, `Terminal.enter` takes the screen and
`Terminal.leave` gives it back.
-/

namespace TaskConsole.Terminal

/-- A control sequence: what stands behind the escape and the bracket. -/
def sequence (inner : String) : String := "\x1b[" ++ inner

/-- The place of a named colour in the palette; the colour of the terminal itself has
none. -/
def paletteIndex? : Color → Option Nat
  | .black => some 0
  | .red => some 1
  | .green => some 2
  | .yellow => some 3
  | .blue => some 4
  | .magenta => some 5
  | .cyan => some 6
  | .gray => some 7
  | .darkGray => some 8
  | .lightRed => some 9
  | .lightGreen => some 10
  | .lightYellow => some 11
  | .lightBlue => some 12
  | .lightMagenta => some 13
  | .lightCyan => some 14
  | .white => some 15
  | .indexed i => some i.toNat
  | .reset => none
  | .rgb .. => none

/-- The code of a colour behind that of what it colours. -/
def colorCode (role : Nat) (c : Color) : String :=
  match c with
  | .rgb r g b => s!"{role};2;{r.toNat};{g.toNat};{b.toNat}"
  | c =>
    match paletteIndex? c with
    | some i => s!"{role};5;{i}"
    | none => toString (role + 1)

/-- The codes of modifiers. -/
def modifierCodes (m : Modifiers) : List Nat :=
  [(m.bold, 1), (m.dim, 2), (m.italic, 3), (m.underlined, 4), (m.slowBlink, 5),
    (m.rapidBlink, 6), (m.reversed, 7), (m.hidden, 8), (m.crossedOut, 9)].filterMap fun p =>
      if p.1 then some p.2 else none

/-- The sequence that makes letters look like those of a cell. -/
def appearance (cell : ScreenCell) : String :=
  let codes := "0" :: (modifierCodes cell.modifiers).map toString
    ++ [colorCode 38 cell.fg, colorCode 48 cell.bg]
  sequence (";".intercalate codes ++ "m")

/-- The sequence that moves the cursor to a place. -/
def moveTo (x y : Nat) : String := sequence s!"{y + 1};{x + 1}H"

/-- The text that shows cells from the left to the right.  `covered` of them are covered
by the cluster in front of them, and `last` looks like what was written last. -/
def showCells (last : Option ScreenCell) : (covered : Nat) → List ScreenCell → String
  | _, [] => ""
  | covered + 1, _ :: rest => showCells last covered rest
  | 0, cell :: rest =>
    let change := if last.any fun c => c.style = cell.style then "" else appearance cell
    change ++ String.ofList cell.symbol
      ++ showCells (some cell) (Text.columnsOf cell.symbol - 1) rest

/-- The text that shows a frame. -/
def paint (f : Frame) : String :=
  let rows := (List.range f.grid.height).map fun y =>
    moveTo 0 y ++ showCells none 0 (f.grid.row y)
  let cursor := match f.cursor with
    | some (x, y) => moveTo x y ++ sequence "?25h"
    | none => ""
  sequence "?25l" ++ String.join rows ++ sequence "0m" ++ cursor

/-- Takes the screen: what it shows is kept aside, and the cursor becomes a bar. -/
def enter : String := sequence "?1049h" ++ sequence "6 q" ++ sequence "2J"

/-- Gives the screen back as it was. -/
def leave : String := sequence "0 q" ++ sequence "?1049l" ++ sequence "?25h"

/-- Asks the terminal for the place of the cursor, which it answers like a key press. -/
def question : String := sequence "6n"

end TaskConsole.Terminal
