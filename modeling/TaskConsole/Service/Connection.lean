import TaskConsole.Number.Hex
import TaskConsole.Service.Request
import TaskConsole.Text.Blank

/-!
# Requests and replies on a connection

A connection brings a request to the service as `Request.bytes`, and its reply back as
bytes that come in pieces.  A `Receiver` takes them one by one.  The head of a reply
tells how the content ends: behind so many bytes, behind the last of its chunks, or with
the connection.
-/

namespace TaskConsole

/-- The host and the port that a request is meant for. -/
def Address.hostText (a : Address) : String :=
  String.ofList ((a.host.map Host.chars).getD [] ++ a.portChars)

/-- The content of a request. -/
def Request.content (r : Request) : List UInt8 :=
  match r.body with
  | some body => Utf8.encode body.compact
  | none => []

/-- The lines in front of the content of a request. -/
def Request.headLines (r : Request) : List String :=
  [s!"{r.method.name} {r.address.target} HTTP/1.1",
   "accept: " ++ r.accept.name,
   "host: " ++ r.address.hostText,
   "connection: close"]
  ++ (r.contentType?.map fun kind => "content-type: " ++ kind).toList
  ++ (if r.method = .post then ["content-length: " ++ toString r.content.length] else [])

/-- A request as it goes over a connection. -/
def Request.bytes (r : Request) : List UInt8 :=
  Utf8.encode (String.join (r.headLines.map fun line => line ++ "\r\n") ++ "\r\n") ++ r.content

/-- What the next byte of a reply belongs to. -/
inductive Awaiting where
  | head
  /-- The content, which goes on to the end of the connection. -/
  | content
  /-- The content, of which so many bytes are left. -/
  | counted (left : Nat)
  /-- The line with the length of a chunk. -/
  | chunkLength
  /-- A chunk, of which so many bytes are left. -/
  | chunk (left : Nat)
  /-- The end of the line behind a chunk. -/
  | chunkEnd
  | nothing
deriving DecidableEq, Inhabited

/-- A reply as far as it has come. -/
structure Receiver where
  awaiting : Awaiting := .head
  /-- The bytes of the line that has begun, the last one first. -/
  line : List UInt8 := []
  /-- The lines of the head, the last one first. -/
  head : List String := []
  /-- The bytes of the content, the last one first. -/
  content : List UInt8 := []
deriving Inhabited

namespace Receiver

/-- The byte that ends a line. -/
def lineFeed : UInt8 := 10

/-- The text of a line, of which the last byte comes first. -/
def lineText (line : List UInt8) : String := Text.trim (Utf8.decodeLossy line.reverse)

/-- The name and the value of a line of the head. -/
def field (line : String) : String × String :=
  let cs := line.toList
  (String.ofList ((cs.takeWhile (· != ':')).map Char.toLower),
    Text.trim (String.ofList ((cs.dropWhile (· != ':')).drop 1)))

/-- The value of a field of the head. -/
def field? (r : Receiver) (name : String) : Option String := (r.head.map field).lookup name

/-- The status, once the head has begun. -/
def status? (r : Receiver) : Option Nat := do
  let first ← r.head.getLast?
  let [_, status] := (first.splitOn " ").take 2 | none
  status.toNat?

/-- What follows the head: another head if it only announces one, otherwise the content
in the form that it tells. -/
def afterHead (r : Receiver) : Receiver :=
  if r.status?.any fun status => 100 ≤ status && status < 200 then {}
  else if (r.field? "transfer-encoding").any fun coding => coding.toLower.endsWith "chunked" then
    { r with awaiting := .chunkLength }
  else
    match (r.field? "content-length").bind String.toNat? with
    | some 0 => { r with awaiting := .nothing }
    | some length => { r with awaiting := .counted length }
    | none => { r with awaiting := .content }

/-- Takes a whole line of the head; an empty one ends it. -/
def headLine (r : Receiver) (text : String) : Receiver :=
  if text.isEmpty then r.afterHead else { r with head := text :: r.head }

/-- The number that the hexadecimal digits at the front of a text write. -/
def hexNumber (cs : List Char) : Nat :=
  (cs.map Number.hexValue?).takeWhile Option.isSome |>.foldl (fun n d => n * 16 + d.getD 0) 0

/-- Takes the line with the length of a chunk; the last chunk is empty. -/
def chunkLine (r : Receiver) (text : String) : Receiver :=
  match hexNumber text.toList with
  | 0 => { r with awaiting := .nothing }
  | length => { r with awaiting := .chunk length }

/-- Takes a byte of a line, which a function takes once it is whole. -/
def lineByte (r : Receiver) (whole : Receiver → String → Receiver) (b : UInt8) : Receiver :=
  if b = lineFeed then whole { r with line := [] } (lineText r.line)
  else { r with line := b :: r.line }

/-- Takes a byte. -/
def step (r : Receiver) (b : UInt8) : Receiver :=
  match r.awaiting with
  | .head => r.lineByte headLine b
  | .content => { r with content := b :: r.content }
  | .counted left =>
    { r with
      content := b :: r.content
      awaiting := if left ≤ 1 then .nothing else .counted (left - 1) }
  | .chunkLength => r.lineByte chunkLine b
  | .chunk left =>
    { r with
      content := b :: r.content
      awaiting := if left ≤ 1 then .chunkEnd else .chunk (left - 1) }
  | .chunkEnd => if b = lineFeed then { r with awaiting := .chunkLength } else r
  | .nothing => r

/-- Takes bytes that have come. -/
def feed (r : Receiver) (bytes : List UInt8) : Receiver := bytes.foldl step r

/-- Whether the reply is whole, or is so as soon as the connection ends. -/
def mayEnd (r : Receiver) : Bool := r.awaiting = .nothing || r.awaiting = .content

/-- The reply, if it is whole when the connection ends. -/
def reply? (r : Receiver) : Option Reply :=
  if r.mayEnd then r.status?.map fun status => { status := status, body := r.content.reverse }
  else none

/-- The content that has come, and the receiver without it. -/
def takeContent (r : Receiver) : List UInt8 × Receiver :=
  (r.content.reverse, { r with content := [] })

end Receiver

end TaskConsole
