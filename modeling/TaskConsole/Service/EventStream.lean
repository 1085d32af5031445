import TaskConsole.Service.Payload
import TaskConsole.Text.Utf8

/-!
# The event stream

The service writes events as frames of lines, each frame ended by a blank line.
`EventStream.read` goes through the bytes of a stream and gives the tasks that its
events name.  Lines that begin with `data:` carry the payload, and all others are
skipped.  A line that is not valid UTF-8 ends the reading, and the frame it stands in
is lost; the end of the stream ends a frame like a blank line.  `Progress.feed` reads a
stream whose bytes come in pieces.
-/

namespace TaskConsole.EventStream

/-- The byte of a line feed. -/
def feed : UInt8 := 10

/-- The lines of a stream, each with its line feed if it has one. -/
def splitLines (bytes : List UInt8) : List (List UInt8) :=
  bytes.foldr (fun b lines =>
    if b = feed then [b] :: lines
    else match lines with
      | line :: rest => (b :: line) :: rest
      | [] => [[b]]) []

/-- A line without the feeds and returns at its end. -/
def trimFeeds (line : List Char) : List Char :=
  (line.reverse.dropWhile fun c => c = '\r' || c = '\n').reverse

/-- The payload of a line that carries one. -/
def payload? (line : List Char) : Option String :=
  let mark := ['d', 'a', 't', 'a', ':']
  if mark.isPrefixOf line then
    some (String.ofList (Text.dropBlankStart (line.drop mark.length)))
  else none

/-- The task that the payload lines of a frame name. -/
def frameTask? (payload : List String) : Option String :=
  if payload.isEmpty then none else updatedTask? ("\n".intercalate payload)

/-- What a stream gave: the tasks in the order of their events, and whether somebody
still listens. -/
structure Outcome where
  tasks : List String
  alive : Bool
deriving DecidableEq

/-- Hands the task of a frame over.  Without a listener the reading ends at the first
task. -/
def forward (listening : Bool) (payload : List String) (go : Outcome) : Outcome :=
  match frameTask? payload with
  | none => go
  | some task => if listening then { go with tasks := task :: go.tasks } else ⟨[], false⟩

/-- Takes a line: the payload lines of the open frame, the last one first, and those of
the frame that the line has ended, if it has; `none` for a line that cannot be read. -/
def lineStep (payload : List String) (line : List UInt8) :
    Option (List String × Option (List String)) := do
  let chars := trimFeeds (← Utf8.decode? line).toList
  if chars.isEmpty then return ([], some payload.reverse)
  else match payload? chars with
    | some data => return (data :: payload, none)
    | none => return (payload, none)

/-- Reads lines; `payload` holds the payload lines of the open frame, the last one
first. -/
def readLines (listening : Bool) (payload : List String) : List (List UInt8) → Outcome
  | [] => forward listening payload.reverse ⟨[], true⟩
  | line :: rest =>
    match lineStep payload line with
    | none => ⟨[], true⟩
    | some (payload, none) => readLines listening payload rest
    | some (payload, some frame) => forward listening frame (readLines listening payload rest)

/-- Reads the bytes of a stream. -/
def read (listening : Bool) (bytes : List UInt8) : Outcome :=
  readLines listening [] (splitLines bytes)

/-- A stream as far as it has come. -/
structure Progress where
  /-- The bytes of the line that has begun, the last one first. -/
  line : List UInt8 := []
  /-- The payload lines of the open frame, the last one first. -/
  payload : List String := []
deriving DecidableEq, Inhabited

namespace Progress

/-- Takes bytes that have come: the tasks of the frames that they end, and how the
reading goes on; `none` after a line that cannot be read. -/
def feed (p : Progress) : List UInt8 → List String × Option Progress
  | [] => ([], some p)
  | b :: rest =>
    let line := b :: p.line
    if b = EventStream.feed then
      match lineStep p.payload line.reverse with
      | none => ([], none)
      | some (payload, frame) =>
        let (tasks, p) := feed { payload := payload } rest
        ((frame.bind frameTask?).toList ++ tasks, p)
    else feed { p with line := line } rest

/-- The tasks that the end of the stream brings out. -/
def close (p : Progress) : List String :=
  (readLines true p.payload (if p.line.isEmpty then [] else [p.line.reverse])).tasks

end Progress

end TaskConsole.EventStream
