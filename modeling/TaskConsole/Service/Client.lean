import TaskConsole.Address.Reader
import TaskConsole.Command
import TaskConsole.Service.EventStream
import TaskConsole.Service.Payload
import TaskConsole.Service.Request
import TaskConsole.Task.Wire
import TaskConsole.Text.HomePath

/-!
# The client

`Client.service` is the service at an address, given a way to bring requests there
(`Exchange`).  Each of its requests names what it asks for by the segments of a path
behind that of the address.  `Client.eventRequest?` is the request for the events of
the service.
-/

namespace TaskConsole

/-- A way to bring a request to the service: its answer, or why there is none. -/
abbrev Exchange (m : Type → Type) := Request → m (Except Failure Reply)

namespace Client

/-- The address of a service. -/
def base (server : String) : Except Failure Address :=
  match Address.read server with
  | .ok a => .ok a
  | .error fault => .error (.transport s!"invalid server url {server}: {fault.message}")

/-- The address of a service with segments behind its path. -/
def address (a : Address) (segments : List String) : Except Failure Address :=
  match a.extend? segments with
  | some b => .ok b
  | none => .error (.transport s!"server url {a.text} cannot carry a path")

/-- What is said of an answer that cannot be understood. -/
def strangeAnswer : Failure := .decode "the answer has not the expected form"

/-- The text of an answer, which has to be a success. -/
def successText (reply : Reply) : Except Failure String :=
  if reply.isSuccess then .ok reply.text else .error (Failure.ofReply reply.status reply.text)

/-- The value of an answer. -/
def decode {α : Type} (read : Json → Option α) (text : String) : Except Failure α :=
  match (Json.read? text).bind read with
  | some a => .ok a
  | none => .error strangeAnswer

variable {m : Type → Type} [Monad m]

/-- Asks for a text. -/
def ask (exchange : Exchange m) (a : Address) (method : Method) (segments : List String)
    (body : Option Json) : m (Except Failure String) := do
  match address a segments with
  | .error failure => return .error failure
  | .ok target =>
    match ← exchange { method := method, address := target, body := body } with
    | .error failure => return .error failure
    | .ok reply => return successText reply

/-- Asks for a value. -/
def fetch {α : Type} (exchange : Exchange m) (a : Address) (method : Method)
    (segments : List String) (body : Option Json) (read : Json → Option α) :
    m (Except Failure α) := do
  return (← ask exchange a method segments body).bind (decode read)

/-- Asks for something to be done; what the answer says does not matter. -/
def order (exchange : Exchange m) (a : Address) (segments : List String)
    (body : Option Json) : m (Except Failure Unit) := do
  return (← ask exchange a .post segments body).map fun _ => ()

/-- The service at an address. -/
def service (exchange : Exchange m) (a : Address) : Service m where
  listTasks := fetch exchange a .get ["tasks"] none (Json.listOf Summary.ofJson?)
  createTask workspace :=
    fetch exchange a .post ["tasks"] (some (Json.ofFields [("workspace", workspace)]))
      Snapshot.ofJson?
  getTask taskId := fetch exchange a .get ["tasks", taskId] none Snapshot.ofJson?
  createMessage taskId text agentId :=
    order exchange a ["tasks", taskId, "messages"]
      (some (Json.ofFields [("text", text), ("agent_id", agentId)]))
  suspendTask taskId := order exchange a ["tasks", taskId, "suspend"] none
  getModel modelId := fetch exchange a .get ["models", modelId] none ModelInfo.ofJson?
  listAgents := fetch exchange a .get ["agents"] none (Json.listOf Agent.ofJson?)

/-- A text without the slashes at its end. -/
def withoutSlashes (text : String) : String :=
  String.ofList (Text.withoutSlashes text.toList)

/-- The tasks that the answer to a request for events names; one that is no success names
none. -/
def eventTasks (reply : Reply) : List String :=
  if reply.isSuccess then (EventStream.read true reply.content).tasks else []

/-- The number of milliseconds between two tries to listen to a service. -/
def retryDelay : Nat := 400

/-- The request for the events of a service, if its address can be read. -/
def eventRequest? (server : String) : Option Request :=
  match Address.read (withoutSlashes server ++ "/event") with
  | .ok a => some { method := .get, address := a, accept := .eventStream }
  | .error _ => none

end Client

end TaskConsole
