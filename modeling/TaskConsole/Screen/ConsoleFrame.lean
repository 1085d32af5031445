import TaskConsole.Console
import TaskConsole.Screen.PickerFrame
import TaskConsole.Screen.SessionFrame

/-!
# The frame of the console

`Console.frame?` draws whatever the console shows on a screen of its size.
-/

namespace TaskConsole.Console

/-- Draws what is shown, if anything is, and gives the console that keeps the layout. -/
def frame? (c : Console) (theme : Theme) (home : Option String) : Option (Frame × Console) :=
  match c.stage with
  | .picking p => some (p.frame theme home c.width c.height, c)
  | .working s =>
    let (frame, s) := s.frame home c.width c.height
    some (frame, { c with stage := .working s })
  | .ended _ => none

end TaskConsole.Console
