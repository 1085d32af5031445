import TaskConsole.Proofs.Conversation.Naming
import TaskConsole.Proofs.Session.Run

/-!
# Correspondences

A `Correspondence` is a session together with what passed between it and the service:
the texts that were sent, the messages that the service holds, how many of these the
session has been told, and which texts it knows could not be sent.  The service records
a text that was sent as one message of the user, at any time and in any order, and holds
messages of the agent between them.  A `Move` is a step of one of the two, and
`Correspondence.Runs` says which moves may follow one another.
-/

namespace TaskConsole

/-! ### Records -/

/-- A message that the service holds. -/
inductive Record where
  /-- It records the text that was sent at a place, as its one part. -/
  | own (text : String) (place : Nat) (id : String) (index : Nat) (createdAt : Option Timestamp)
  /-- It is another message. -/
  | other (m : Message)

namespace Record

/-- The message that a record is. -/
def message : Record → Message
  | own text _ id index createdAt =>
    { id := id, role := .user, createdAt := createdAt, parts := [⟨index, .text text⟩] }
  | other m => m

/-- The text that a record records, with its place among those that were sent. -/
def send? : Record → Option (String × Nat)
  | own text place .. => some (text, place)
  | other _ => none

/-- The entries of records, in order. -/
def entries (rs : List Record) : List Entry := rs.flatMap fun r => r.message.entries

/-- The entries of records are those of a task that has their messages. -/
theorem entries_map_message (head : Task) (rs : List Record) :
  ({ task := head, messages := rs.map message } : Snapshot).entries = entries rs
  := List.flatMap_map message Message.entries rs

/-- What records record, in order. -/
def sends (rs : List Record) : List (String × Nat) := rs.filterMap send?

theorem entries_append (rs rs' : List Record) :
  entries (rs ++ rs') = entries rs ++ entries rs'
  := List.flatMap_append

theorem ids_subset {rs rs' : List Record} (h : rs <+: rs') :
  (entries rs).map Entry.id ⊆ (entries rs').map Entry.id
  := by
  obtain ⟨rest, rfl⟩ := h
  rw [entries_append, List.map_append]
  apply List.subset_append_left

theorem sends_append (rs rs' : List Record) :
  sends (rs ++ rs') = sends rs ++ sends rs'
  := List.filterMap_append

/-- Other messages record nothing. -/
theorem sends_map_other (ms : List Message) :
  sends (ms.map other) = []
  := by
  rw [sends, List.filterMap_eq_nil_iff]
  intro r hr
  obtain ⟨m, -, rfl⟩ := List.mem_map.mp hr
  rfl

end Record

/-! ### What passed -/

/-- What passed between a session and the service. -/
structure Post where
  /-- The texts that were sent, in order. -/
  sent : List String := []
  /-- The messages that the service holds, in order. -/
  log : List Record
  /-- The number of messages that the session has been told. -/
  told : Nat
  /-- The places of the texts of which the session knows that they were not sent. -/
  failed : List Nat := []

namespace Post

/-- A text was sent at a place, and the session does not know that it failed, nor does the
service hold it. -/
def IsOpen (p : Post) (text : String) (place : Nat) : Prop :=
  (text, place) ∈ p.sent.zipIdx ∧ place ∉ p.failed
    ∧ place ∉ (Record.sends p.log).map Prod.snd

/-- The service may come to hold a record: it records a text for the first time, under an
id that no message has and a name that no call has, or it is not of the user. -/
def Admits (p : Post) : Record → Prop
  | .own text place id index createdAt =>
    p.IsOpen text place ∧ ∀ held ∈ p.log, held.message.id ≠ id
      ∧ (Record.own text place id index createdAt).message.placeId index ∉ held.message.callIds
  | .other m => m.role ≠ .user

instance (p : Post) (text : String) (place : Nat) : Decidable (p.IsOpen text place) :=
  inferInstanceAs (Decidable (_ ∧ _ ∧ _))

instance (p : Post) : (r : Record) → Decidable (p.Admits r)
  | .own .. => inferInstanceAs (Decidable (_ ∧ ∀ held ∈ p.log, _ ∧ _))
  | .other _ => inferInstanceAs (Decidable (_ ≠ _))

/-- Texts are sent. -/
def send (p : Post) (texts : List String) : Post := { p with sent := p.sent ++ texts }

/-- The service comes to hold a record. -/
def hold (p : Post) (r : Record) : Post := { p with log := p.log ++ [r] }

/-- The session is told the first messages, so many of them. -/
def tell (p : Post) (count : Nat) : Post := { p with told := max p.told count }

/-- The session knows that the text at a place was not sent. -/
def fail (p : Post) (place : Nat) : Post := { p with failed := place :: p.failed }

/-- What the session has been told of what it sent, in the order of the messages. -/
def toldSends (p : Post) : List (String × Nat) := Record.sends (p.log.take p.told)

/-- Those of the first messages that the session has not been told. -/
def untold (p : Post) (count : Nat) : List Record := (p.log.take count).drop p.told

/-- What the session has not been told of what it sent, among the first messages. -/
def news (p : Post) (count : Nat) : List (String × Nat) := Record.sends (p.untold count)

/-- The texts of the user that the session has been told, in the order of the messages. -/
def toldTexts (p : Post) : List String := p.toldSends.map Prod.fst

end Post

/-! ### Moves -/

/-- A turn brings no news of what was sent. -/
def Session.Turn.IsQuiet : Session.Turn → Prop
  | refuse _ _ => False
  | take _ => False
  | _ => True

instance : (t : Session.Turn) → Decidable t.IsQuiet
  | .aside => isTrue trivial
  | .say _ => isTrue trivial
  | .refuse _ _ => isFalse id
  | .complain _ => isTrue trivial
  | .take _ => isFalse id

/-- A session and what passed between it and the service. -/
structure Correspondence where
  session : Session
  post : Post

/-- A step of the session or of the service. -/
inductive Move where
  /-- An event happens to the session that brings no news of what was sent. -/
  | event (now : Nat) (e : Event)
  /-- The service comes to hold a message. -/
  | hold (r : Record)
  /-- The session learns that the text at a place could not be sent. -/
  | refuse (now : Nat) (text : String) (place : Nat) (notice : Notice)
  /-- The session is told the task as it was when it had so many messages. -/
  | snapshot (now : Nat) (head : Task) (count : Nat)

namespace Correspondence

/-- The correspondence that a session on a task opens with. -/
def opened (snapshot : Snapshot) (agent : Agent) (agents : List Agent) (theme : Theme)
    (viewport : Viewport) : Correspondence where
  session := .start snapshot agent agents theme viewport
  post := { log := snapshot.messages.map .other, told := snapshot.messages.length }

/-- The outcome that tells a session the task with so many messages. -/
def fetched (c : Correspondence) (head : Task) (count : Nat) : Outcome :=
  .taskFetched c.session.task.id
    (.ok { task := head, messages := (c.post.log.take count).map Record.message })

/-- The outcome that tells a session that a text could not be sent. -/
def refused (c : Correspondence) (text : String) (notice : Notice) : Outcome :=
  .messageSent c.session.task.id text (.error notice)

theorem turn_fetched (c : Correspondence) (head : Task) (count : Nat) :
  c.session.turn (.outcome (c.fetched head count))
    = .take { task := head, messages := (c.post.log.take count).map Record.message }
  := if_pos rfl

theorem turn_refused (c : Correspondence) (text : String) (notice : Notice) :
  c.session.turn (.outcome (c.refused text notice)) = .refuse text notice
  := if_pos rfl

/-- What a move makes of a correspondence. -/
def apply (c : Correspondence) : Move → Correspondence
  | .event now e =>
    { session := (c.session.handle now e).1
      post := c.post.send ((c.session.handle now e).2.filterMap Command.sentText?) }
  | .hold r => { c with post := c.post.hold r }
  | .refuse now text place notice =>
    { session := (c.session.handle now (.outcome (c.refused text notice))).1
      post := c.post.fail place }
  | .snapshot now head count =>
    { session := (c.session.handle now (.outcome (c.fetched head count))).1
      post := c.post.tell count }

/-- The moves that may come next. -/
def Allowed (c : Correspondence) : Move → Prop
  | .event _ e => (c.session.turn e).IsQuiet
  | .hold r => c.post.Admits r
  | .refuse _ text place _ => c.post.IsOpen text place
  | .snapshot _ _ count => count ≤ c.post.log.length

/-- The correspondence after moves. -/
def after (c : Correspondence) (moves : List Move) : Correspondence := moves.foldl apply c

/-- Each move may come next when its turn comes. -/
def Runs (c : Correspondence) : List Move → Prop
  | [] => True
  | move :: moves => c.Allowed move ∧ (c.apply move).Runs moves

instance (c : Correspondence) : (move : Move) → Decidable (c.Allowed move)
  | .event _ e => inferInstanceAs (Decidable (c.session.turn e).IsQuiet)
  | .hold r => inferInstanceAs (Decidable (c.post.Admits r))
  | .refuse _ text place _ => inferInstanceAs (Decidable (c.post.IsOpen text place))
  | .snapshot _ _ _ => inferInstanceAs (Decidable (_ ≤ _))

/-- Whether moves may follow one another is decided move by move. -/
def decidableRuns : (c : Correspondence) → (moves : List Move) → Decidable (c.Runs moves)
  | _, [] => isTrue trivial
  | c, move :: moves =>
    have := decidableRuns (c.apply move) moves
    inferInstanceAs (Decidable (c.Allowed move ∧ (c.apply move).Runs moves))

instance (c : Correspondence) (moves : List Move) : Decidable (c.Runs moves) :=
  decidableRuns c moves

/-- A correspondence that opens on a task without messages. -/
def blank : Correspondence :=
  opened { task := { id := "t" } } ⟨"a", "A", "m"⟩ [] {} (.ofScreen 80 24)

/-- The user types a letter and sends it. -/
def typing (letter : Char) : List Move :=
  [.event 0 (.key (.insert letter)), .event 0 (.key .submit)]

end Correspondence

end TaskConsole
