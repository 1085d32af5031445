import TaskConsole.Failure
import TaskConsole.Task.Basic

/-!
# Conversation entries

An `Entry` is one thing that the feed shows: what the user or the agent said, a call
of a tool, its result, or a notice.  `Message.entries` gives the entries of a
message: one for each part that has something to show, named for the message and the
place of the part, except that a call with an id of its own is named by it.
-/

namespace TaskConsole

/-- What an entry shows. -/
inductive EntryKind where
  | userText (text : String)
  | assistantText (text : String)
  | call (call : ToolCall)
  | result (result : ToolResult)
  | notice (notice : Notice)
deriving DecidableEq, Inhabited

/-- One thing that the feed shows. -/
structure Entry where
  id : String
  kind : EntryKind
deriving DecidableEq, Inhabited

/-- Whether an entry comes from the agent. -/
def Entry.isAgentContent (e : Entry) : Bool :=
  match e.kind with
  | .assistantText _ => true
  | .call _ => true
  | .result _ => true
  | .userText _ => false
  | .notice _ => false

namespace Message

/-- The id of an entry by the place of its part. -/
def placeId (m : Message) (index : Nat) : String := m.id ++ "/" ++ toString index

/-- The entry of a part, unless it has nothing to show. -/
def entry? (m : Message) (p : PlacedPart) : Option Entry :=
  match p.part with
  | .text text =>
    if Text.isBlankText text then none
    else some {
      id := m.placeId p.index
      kind := if m.role = .user then .userText text else .assistantText text }
  | .call call =>
    some { id := if call.id.isEmpty then m.placeId p.index else call.id, kind := .call call }
  | .result result => some { id := m.placeId p.index, kind := .result result }

/-- The entries of a message, in the order of its parts. -/
def entries (m : Message) : List Entry := m.parts.filterMap m.entry?

end Message

/-- The entries of a snapshot, in the order of its messages. -/
def Snapshot.entries (s : Snapshot) : List Entry := s.messages.flatMap Message.entries

end TaskConsole
