import TaskConsole.Failure
import TaskConsole.Json.Reader
import TaskConsole.Json.Record

/-!
# What the service says beside tasks

`Failure.ofReply` reads the body of an answer that is no success, and `updatedTask?`
finds the task that an event is about.
-/

namespace TaskConsole

/-- The code and the message in the body of a failure, if it is such a body. -/
def failureFields? (body : String) : Option (Option String × Option String) := do
  let [code, message] ← (← Json.read? body).fields? ["code", "message"] | none
  return (← Json.nullable Json.asText? code, ← Json.nullable Json.asText? message)

/-- The failure that an answer without success tells; a body of another form is the
message itself. -/
def Failure.ofReply (status : Nat) (body : String) : Failure :=
  let fields := (failureFields? body).getD (none, none)
  .status status fields.1 (fields.2.getD (Text.trim body))

/-- The task that an event says was updated. -/
def updatedTask? (payload : String) : Option String := do
  let value ← (← Json.read? payload).keep? 127
  if (value.member? "type").bind Json.asText? = some "task.updated" then
    ["task_id", "taskId", "taskID"].findSome? fun name =>
      (value.member? name).bind Json.asText?
  else none

end TaskConsole
