import TaskConsole.Address.Basic
import TaskConsole.Json.Printer
import TaskConsole.Text.Utf8

/-!
# Requests and replies

A `Request` is what is asked of the service, and a `Reply` what it answers.
-/

namespace TaskConsole

/-- How the service is asked: for something, or to do something. -/
inductive Method where
  | get | post
deriving DecidableEq, Inhabited

/-- The name of a method. -/
def Method.name : Method → String
  | get => "GET"
  | post => "POST"

/-- What the answer to a request may be. -/
inductive Accept where
  | anything | eventStream
deriving DecidableEq, Inhabited

/-- The name of the kind of answer. -/
def Accept.name : Accept → String
  | anything => "*/*"
  | eventStream => "text/event-stream"

/-- What is asked of the service. -/
structure Request where
  method : Method
  address : Address
  body : Option Json := none
  accept : Accept := .anything

/-- The kind of content that a request brings. -/
def Request.contentType? (r : Request) : Option String :=
  r.body.map fun _ => "application/json"

/-- What the service answers. -/
structure Reply where
  status : Nat
  body : List UInt8

namespace Reply

/-- Whether an answer is a success. -/
def isSuccess (r : Reply) : Bool := 200 ≤ r.status && r.status < 300

/-- The content of an answer; some have none whatever follows them. -/
def content (r : Reply) : List UInt8 :=
  if r.status = 204 || r.status = 304 then [] else r.body

/-- The content of an answer as a text. -/
def text (r : Reply) : String := Utf8.decodeLossy r.content

end Reply

end TaskConsole
