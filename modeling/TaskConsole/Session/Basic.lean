import TaskConsole.Command
import TaskConsole.Conversation.Feed
import TaskConsole.Key
import TaskConsole.Prompt
import TaskConsole.Screen.Area

/-!
# Sessions

A `Session` is one task open in the terminal: the task with its conversation, the
agent that the user talks to, the prompt, and what the screen shows of it all.  An
`Event` is what happens to it.  The layout of the feed is kept between two looks at
it (`Layout`); `Session.feedView` lays it out again only if entries were added or the
width is another.
-/

namespace TaskConsole

/-- What happens to a session. -/
inductive Event where
  | key (action : KeyAction)
  | resize (width height : Nat)
  | serverTask (taskId : String)
  | outcome (o : Outcome)
  | tick

/-- Whether the prompt or the help has the keys. -/
inductive Mode where
  | input | help
deriving DecidableEq, Inhabited

/-- The feed as it was laid out last: the width, the number of the conversation it was
made from, and the lines. -/
structure Layout where
  width : Nat
  generation : UInt64
  lines : List Line
deriving Inhabited

/-- A task open in the terminal. -/
structure Session where
  running : Bool := true
  ticks : Count := 0
  theme : Theme
  task : Task
  agent : Agent
  agents : List Agent
  /-- The models that have been fetched, the latest first. -/
  models : List (String × ModelInfo) := []
  /-- The model that is shown. -/
  model : Option ModelInfo := none
  /-- The entries of the conversation, the oldest first. -/
  conversation : List Entry := []
  /-- The ids of all entries that the service has sent. -/
  seen : List String := []
  /-- What was sent and has not come back from the service yet, the oldest first. -/
  echoes : List String := []
  /-- The number of entries that were made here. -/
  localEntries : Count := 0
  mode : Mode := .input
  waiting : Bool := false
  viewport : Viewport
  prompt : Prompt := {}
  /-- The number of lines between the end of the feed and the end of the window. -/
  scroll : Nat := 0
  /-- The time of a first press of the key that clears or quits. -/
  armedAt : Option Nat := none
  /-- A number that is another one after each entry. -/
  generation : UInt64 := 0
  layout : Option Layout := none
deriving Inhabited

namespace Session

/-- The signs that turn while something is going on. -/
def spinnerSigns : List String := ["⠋", "⠙", "⠹", "⠸", "⠼", "⠴", "⠦", "⠧", "⠇", "⠏"]

/-- Whether something is going on. -/
def isBusy (s : Session) : Bool := s.waiting || s.task.phase = .running

/-- The sign of the moment, while something is going on. -/
def spinner? (s : Session) : Option String :=
  if s.isBusy then spinnerSigns[s.ticks.toNat % spinnerSigns.length]? else none

/-- How full the window of the shown model is. -/
def contextPercent? (s : Session) : Option Nat :=
  s.model.map fun m => s.task.usage.contextPercent m.contextWindow

/-- The model of a name, if it has been fetched. -/
def model? (s : Session) (modelId : String) : Option ModelInfo := s.models.lookup modelId

/-- The feed laid out afresh. -/
def freshLayout (s : Session) : List Line :=
  Feed.layout s.theme s.viewport.feedWidth s.conversation

/-- The kept layout, if it is the one of now. -/
def keptLayout? (s : Session) : Option (List Line) :=
  match s.layout with
  | some l =>
    if l.width = s.viewport.feedWidth && l.generation = s.generation then some l.lines else none
  | none => none

/-- The lines of the feed, and the session that keeps them. -/
def layOut (s : Session) : List Line × Session :=
  match s.keptLayout? with
  | some lines => (lines, s)
  | none =>
    let lines := s.freshLayout
    (lines, { s with layout := some ⟨s.viewport.feedWidth, s.generation, lines⟩ })

/-- The window on the feed, and the session that keeps the layout. -/
def feedView (s : Session) : Feed.View × Session :=
  let (lines, s) := s.layOut
  (Feed.view lines s.viewport.feedHeight s.scroll, s)

/-- Adds an entry to the conversation. -/
def append (s : Session) (e : Entry) : Session :=
  { s with conversation := s.conversation ++ [e], generation := s.generation + 1 }

/-- Counts an entry that is made here. -/
def countLocal (s : Session) : Session := { s with localEntries := s.localEntries.add 1 }

/-- The id of the entry made here last. -/
def localId (s : Session) (kind : String) : String := kind ++ "-" ++ s.localEntries.text

/-- Shows a notice, unless it is silent. -/
def notify (s : Session) (n : Notice) : Session :=
  if n.isSilent then s
  else
    let s := s.countLocal
    s.append { id := s.localId "error", kind := .notice n }

end Session

end TaskConsole
