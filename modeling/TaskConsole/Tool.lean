import TaskConsole.Number.Count
import TaskConsole.Text.Blank
import TaskConsole.Text.Truncate

/-!
# Tools

An agent works through seven tools (`ToolKind`).  A `ToolInvocation` is what it asks
of one, and a `ToolOutput` is what came of it.  `ToolInvocation.summary` shows an
invocation on one line: the verb of its tool, and in brackets what it is about.
-/

namespace TaskConsole

/-- The tools. -/
inductive ToolKind where
  | read | write | edit | run | search | list | handoff
deriving DecidableEq, Inhabited

namespace ToolKind

/-- Every tool once. -/
def all : List ToolKind :=
  [read, write, edit, run, search, list, handoff]

/-- The name of a tool in messages. -/
def name : ToolKind → String
  | read => "read_file"
  | write => "write_file"
  | edit => "edit_file"
  | run => "run_command"
  | search => "search"
  | list => "list_files"
  | handoff => "handoff"

/-- The tool of a name. -/
def ofName? (name : String) : Option ToolKind :=
  all.find? fun kind => kind.name = name

/-- What the user reads for a tool. -/
def verb : ToolKind → String
  | read => "Read"
  | write => "Write"
  | edit => "Edit"
  | run => "Run"
  | search => "Search"
  | list => "List"
  | handoff => "Handoff"

end ToolKind

/-- What an agent asks of a tool. -/
inductive ToolInvocation where
  | read (path : String)
  | write (path content : String)
  | edit (path : String)
  | run (command : String)
  | search (pattern : String) (path : Option String)
  | list (path : String)
  | handoff (agent message : String)
deriving DecidableEq, Inhabited

/-- What came of an invocation. -/
inductive ToolOutput where
  | read (lines : Count)
  | write (bytes : Count)
  | edit (added removed : Count)
  | run (exitCode : Int) (output : String)
  | search (hits : Count)
  | list (entries : List String)
  | handoff (agent : String)
  | failed (kind : ToolKind) (message : String)
deriving DecidableEq, Inhabited

/-- An invocation with the id that the agent gave it, which may be empty. -/
structure ToolCall where
  id : String
  invocation : ToolInvocation
deriving DecidableEq, Inhabited

/-- An output with the id of the call that it answers. -/
structure ToolResult where
  callId : String
  output : ToolOutput
deriving DecidableEq, Inhabited

namespace ToolInvocation

/-- The tool that is invoked. -/
def kind : ToolInvocation → ToolKind
  | read .. => .read
  | write .. => .write
  | edit .. => .edit
  | run .. => .run
  | search .. => .search
  | list .. => .list
  | handoff .. => .handoff

/-- The number of characters that one argument may take. -/
def budget : Nat := 48

/-- A path, of which the end tells most. -/
def pathText (path : String) : String := Text.truncateStart path budget

/-- A phrase on one line, of which the beginning tells most. -/
def phraseText (phrase : String) : String := Text.truncateEnd (Text.singleLine phrase) budget

/-- What an invocation is about. -/
def subject : ToolInvocation → String
  | read path => pathText path
  | write path _ => pathText path
  | edit path => pathText path
  | list path => pathText path
  | run command => phraseText command
  | search pattern none => phraseText pattern
  | search pattern (some path) =>
    if Text.isBlankText path then phraseText pattern
    else phraseText pattern ++ ", in " ++ pathText path
  | handoff agent _ => Text.truncateEnd agent budget

/-- An invocation on one line. -/
def summary (i : ToolInvocation) : String :=
  i.kind.verb ++ "(" ++ i.subject ++ ")"

end ToolInvocation

end TaskConsole
