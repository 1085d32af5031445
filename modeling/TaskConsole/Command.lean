import TaskConsole.Failure
import TaskConsole.Task.Basic

/-!
# Commands and outcomes

A `Command` is what a session asks of the service, and an `Outcome` is what came of
it, told with the identity that it was asked for.  `Command.execute` carries a command
out on a `Service` and reports each failure once.
-/

namespace TaskConsole

/-- What a session asks of the service. -/
inductive Command where
  | sendMessage (taskId text agentId : String)
  | suspendTask (taskId : String)
  | fetchTask (taskId : String)
  | fetchModel (modelId : String)
  | listAgents
deriving DecidableEq, Inhabited

/-- The name of a command. -/
def Command.name : Command → String
  | sendMessage .. => "send_message"
  | suspendTask _ => "suspend_task"
  | fetchTask _ => "fetch_task"
  | fetchModel _ => "fetch_model"
  | listAgents => "list_agents"

/-- What came of a command. -/
inductive Outcome where
  | messageSent (taskId text : String) (result : Except Notice Unit)
  | taskSuspended (taskId : String) (result : Except Notice Unit)
  | taskFetched (taskId : String) (result : Except Notice Snapshot)
  | modelFetched (modelId : String) (result : Except Notice ModelInfo)
  | agentsListed (result : Except Notice (List Agent))

/-- The requests that the service answers. -/
structure Service (m : Type → Type) where
  listTasks : m (Except Failure (List Summary))
  createTask : (workspace : String) → m (Except Failure Snapshot)
  getTask : (taskId : String) → m (Except Failure Snapshot)
  createMessage : (taskId text agentId : String) → m (Except Failure Unit)
  suspendTask : (taskId : String) → m (Except Failure Unit)
  getModel : (modelId : String) → m (Except Failure ModelInfo)
  listAgents : m (Except Failure (List Agent))

/-- The result with its failure worded for the user, after it was reported. -/
def tell {m : Type → Type} {α : Type} [Monad m] (report : Failure → m Unit) :
    Except Failure α → m (Except Notice α)
  | .ok a => pure (.ok a)
  | .error f => do
    report f
    return .error f.notice

/-- Carries a command out. -/
def Command.execute {m : Type → Type} [Monad m] (service : Service m)
    (report : Failure → m Unit) : Command → m Outcome
  | sendMessage taskId text agentId => do
    return .messageSent taskId text (← tell report (← service.createMessage taskId text agentId))
  | suspendTask taskId => do
    return .taskSuspended taskId (← tell report (← service.suspendTask taskId))
  | fetchTask taskId => do
    return .taskFetched taskId (← tell report (← service.getTask taskId))
  | fetchModel modelId => do
    return .modelFetched modelId (← tell report (← service.getModel modelId))
  | listAgents => do
    return .agentsListed (← tell report (← service.listAgents))

end TaskConsole
