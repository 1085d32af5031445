import TaskConsole.Picker
import TaskConsole.Screen.Grid
import TaskConsole.Task.Basic
import TaskConsole.Text.HomePath
import TaskConsole.Theme

/-!
# The screen of the picker

`Picker.frame` draws a list of tasks to choose from: as many as the screen has room
for, the selected one among them and marked.
-/

namespace TaskConsole.Picker

/-- The line above the tasks. -/
def titleLine (theme : Theme) : Line where
  spans :=
    [{ text := "Open Task", style := theme.accent.bold }, { text := " " },
     { text := "(Up/Down select, Enter open, Esc cancel)", style := theme.muted }]

/-- The line of a task. -/
def taskLine (theme : Theme) (home : Option String) (selected : Bool) (t : Summary) : Line where
  spans :=
    let time := match t.updatedAt with
      | some moment => moment.minute
      | none => "unknown date"
    [{ text := if selected then ">" else " ", style := theme.muted }, { text := " " },
     { text := if Text.isBlankText t.title then t.id else t.title
       style := if selected then theme.accent.bold else theme.plainText },
     { text := " " },
     { text := s!"({time} | {t.phase.label} | {Text.abbreviate home t.workspace})"
       style := theme.muted }]

/-- The number of tasks that a screen shows, one at least. -/
def shownCount (p : Picker Summary) (height : Nat) : Nat :=
  min (max p.items.length 1) (pickerRows height)

/-- The tasks that a screen shows, each with its index. -/
def shown (p : Picker Summary) (height : Nat) : List (Summary × Nat) :=
  let count := p.shownCount height
  (p.items.zipIdx.drop (p.windowStart count)).take count

/-- The box that holds the tasks on a screen. -/
def overlay (p : Picker Summary) (width height : Nat) : Area :=
  (Area.screen width height).centred 90 (p.shownCount height + 4)

/-- The lines of the box. -/
def frameLines (p : Picker Summary) (theme : Theme) (home : Option String) (height : Nat) :
    List Line :=
  titleLine theme ::
    (p.shown height).map fun item => taskLine theme home (item.2 = p.selected) item.1

/-- Draws the picker on an empty screen. -/
def frame (p : Picker Summary) (theme : Theme) (home : Option String) (width height : Nat) :
    Frame :=
  let a := p.overlay width height
  let g := (Grid.blank width height).paint (.screen width height) (.ofBg theme.feedBg)
  { grid := (g.clear a).paragraph a {} (.ofBg theme.inputBg) (.uniform 1) .left
      (p.frameLines theme home height) }

end TaskConsole.Picker
