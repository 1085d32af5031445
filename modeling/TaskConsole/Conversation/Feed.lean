import TaskConsole.Conversation.Render
import TaskConsole.Styled.Wrap

/-!
# The feed

`Feed.layout` lays entries out below each other, wrapped to a width, with one empty
line between neighbours.  `Feed.view` is the part of a layout that a window of some
height shows, so many lines above its end.
-/

namespace TaskConsole.Feed

/-- The rows of one entry. -/
def entryRows (theme : Theme) (width : Nat) (e : Entry) : List Line :=
  (e.render theme).flatMap fun line => line.wrap width

/-- The rows of all entries. -/
def layout (theme : Theme) (width : Nat) (entries : List Entry) : List Line :=
  List.intercalate [.empty] (entries.map (entryRows theme width))

/-- A window on a layout: the lines it shows, the number of lines above it, and the
largest number there can be. -/
structure View where
  lines : List Line
  top : Nat
  maxScroll : Nat
deriving DecidableEq, Inhabited

/-- The window of a height whose end lies so many lines above the end of the layout; it
does not go beyond the front. -/
def view (lines : List Line) (height scroll : Nat) : View :=
  let maxScroll := lines.length - height
  let top := maxScroll - min scroll maxScroll
  { lines := (lines.drop top).take height, top := top, maxScroll := maxScroll }

end TaskConsole.Feed
