import TaskConsole.Number.Compact
import TaskConsole.Screen.Grid
import TaskConsole.Session.Basic
import TaskConsole.Text.HomePath

/-!
# The screen of a session

`Session.frame` draws a session: the header with the task, the agent and what has been
used, the feed with a note of what is hidden below, the input with the cursor, the
footer, and the help over them all while it is open.
-/

namespace TaskConsole.Session

/-- What the footer tells. -/
def footerText : String :=
  "Enter send | Tab agent | Esc suspend | PgUp/PgDn scroll | F1 help | Ctrl+C twice quit"

/-- The keys and what they do. -/
def keyBindings : List (String × String) :=
  [("Enter", "Send the message"),
   ("Tab", "Switch to the next agent"),
   ("Esc", "Suspend the running task"),
   ("PgUp / Ctrl+U", "Scroll the feed up half a page"),
   ("PgDn / Ctrl+D", "Scroll the feed down half a page"),
   ("Up / Down", "Scroll the feed one line"),
   ("Home / End", "Jump within the input"),
   ("Ctrl+C", "Clear input, press twice to quit"),
   ("F1", "Toggle this help")]

/-- The line of the task: its workspace, its phase, and a sign while it works. -/
def statusLine (s : Session) (home : Option String) : Line where
  spans :=
    [{ text := Text.abbreviate home s.task.workspace, style := s.theme.plainText.bold },
     { text := " | ", style := s.theme.muted },
     { text := s.task.phase.label, style := s.theme.accent }]
    ++ match s.spinner? with
      | some sign => [{ text := " " }, { text := sign ++ " working", style := s.theme.tool }]
      | none => []

/-- The place of the agent in a roster of several. -/
def rosterText? (s : Session) : Option String :=
  if s.agents.length ≤ 1 then none
  else (s.agents.findIdx? fun a => a.id = s.agent.id).map fun i =>
    s!" ({i + 1}/{s.agents.length})"

/-- What the task has used, in few characters. -/
def usageText (u : Usage) : String :=
  s!" | in {Number.compact u.input} out {Number.compact u.output}"
    ++ s!" | cache r {Number.compact u.cacheRead} w {Number.compact u.cacheWrite}"
    ++ s!" | ${Number.fixedFloat 4 u.cost}"

/-- The line of the agent: its name, its place in the roster, its model and what has
been used. -/
def agentLine (s : Session) : Line where
  spans :=
    [{ text := s.agent.name, style := s.theme.user.bold }]
    ++ (match s.rosterText? with
      | some text => [{ text := text, style := s.theme.muted }]
      | none => [])
    ++ [{ text := " | ", style := s.theme.muted },
        { text := (s.model.map ModelInfo.name).getD "loading model..."
          style := s.theme.plainText },
        { text := " | ", style := s.theme.muted },
        { text := (match s.contextPercent? with
            | some percent => s!"ctx {percent}%"
            | none => "ctx --"), style := s.theme.muted },
        { text := usageText s.task.usage, style := s.theme.muted }]

/-- Draws the header. -/
def drawHeader (s : Session) (home : Option String) (a : Area) (g : Grid) : Grid :=
  g.paragraph a {} (.ofBg s.theme.headerBg) { left := 1, right := 1, bottom := 1 } .left
    [s.statusLine home, s.agentLine]

/-- Draws a window on the feed; the note of the lines below it takes the last row. -/
def drawFeed (s : Session) (view : Feed.View) (a : Area) (g : Grid) : Grid :=
  let g := g.paragraph a s.theme.plainText (.ofBg s.theme.feedBg)
    (.horizontal Viewport.feedPadding) .left view.lines
  let below := view.maxScroll - view.top
  if below = 0 || a.height = 0 then g
  else
    g.paragraph ⟨a.x, a.y + a.height - 1, a.width, 1⟩ {} {} {} .right
      [.ofStyled s!" {below} more below "
        { fg := some s.theme.mutedFg, bg := some s.theme.headerBg }]

/-- The number of cells between the input and its edge. -/
def inputPadding : Nat := 1

/-- The part of the prompt that an area shows. -/
def promptWindow (s : Session) (a : Area) : Prompt.Window :=
  Prompt.window s.prompt.chars s.prompt.cursor (max (a.width - inputPadding * 2) 1)

/-- Draws the input; an empty one asks for a message. -/
def drawInput (s : Session) (a : Area) (g : Grid) : Grid :=
  let line : Line :=
    if s.prompt.chars.isEmpty then .ofStyled "Message the agent..." s.theme.muted
    else .ofStyled (String.ofList (s.promptWindow a).visible) s.theme.plainText
  g.paragraph a {} (.ofBg s.theme.inputBg) (.uniform inputPadding) .left [line]

/-- The place of the cursor in the input, while the prompt has the keys. -/
def cursor? (s : Session) (a : Area) : Option (Nat × Nat) :=
  if s.mode = .input && inputPadding < a.height then
    some (a.x + inputPadding + (s.promptWindow a).column, a.y + inputPadding)
  else none

/-- Draws the footer. -/
def drawFooter (s : Session) (a : Area) (g : Grid) : Grid :=
  g.paragraph a { fg := some s.theme.mutedFg, bg := some s.theme.headerBg } {} {} .left
    [.ofText footerText]

/-- The text with blanks behind it up to a width. -/
def padded (width : Nat) (text : String) : String :=
  text ++ String.ofList (List.replicate (width - text.length) ' ')

/-- The lines of the help. -/
def helpLines (theme : Theme) : List Line :=
  [.ofStyled "Key Bindings" theme.accent.bold, .empty]
  ++ keyBindings.map (fun binding =>
      { spans := [{ text := padded 15 binding.1, style := theme.plainText },
                  { text := binding.2, style := theme.muted }] })
  ++ [.empty, .ofStyled "Press any key to close" theme.muted]

/-- Draws the help in the middle of the screen. -/
def drawHelp (theme : Theme) (g : Grid) : Grid :=
  let lines := helpLines theme
  let a := g.area.centred 56 (lines.length + inputPadding * 2)
  (g.clear a).paragraph a {} (.ofBg theme.inputBg) (.uniform inputPadding) .left lines

/-- Draws a session with a window on its feed on an empty screen. -/
def frameWith (s : Session) (view : Feed.View) (home : Option String) (width height : Nat) :
    Frame :=
  let b := bands width height
  let g := Grid.blank width height
    |> s.drawHeader home b.header |> s.drawFeed view b.feed |> s.drawInput b.input
    |> s.drawFooter b.footer
  { grid := if s.mode = .help then drawHelp s.theme g else g
    cursor := s.cursor? b.input }

/-- Draws a session, and gives the session that keeps the layout. -/
def frame (s : Session) (home : Option String) (width height : Nat) : Frame × Session :=
  let (view, s) := s.feedView
  (s.frameWith view home width height, s)

end TaskConsole.Session
