import TaskConsole.Command
import TaskConsole.Launch.Options
import TaskConsole.Text.Quoted

/-!
# What to begin with

Before a session there is a task to find (`Target.find`) and an agent to talk to
(`chooseAgent`).  A `StartFailure` says why there is none, and `StartFailure.report` is
what the program prints about it when it gives up.
-/

namespace TaskConsole

/-- Why the program gives up. -/
inductive StartFailure where
  | request (notice : Notice)
  | unknownAgent (agentId : String)
  | noAgents
deriving DecidableEq, Inhabited

namespace StartFailure

/-- The sort of a failure. -/
def kind : StartFailure → String
  | request _ => "Other"
  | unknownAgent _ => "InvalidInput"
  | noAgents => "NotFound"

/-- A notice with its hints below it. -/
def noticeText (n : Notice) : String :=
  n.message ++ String.join (n.hints.map fun hint => "\n  " ++ hint)

/-- A failure in words. -/
def message : StartFailure → String
  | request notice => noticeText notice
  | unknownAgent agentId => "Unknown agent: " ++ agentId
  | noAgents => "The server has no agents"

/-- What the program prints about a failure. -/
def report (f : StartFailure) : String :=
  "Error: Custom \x7b kind: " ++ f.kind ++ ", error: " ++ Text.quoted f.message ++ " \x7d\n"

end StartFailure

/-- The agent of an id. -/
def findAgent? (agents : List Agent) (agentId : String) : Option Agent :=
  agents.find? fun a => a.id = agentId

/-- The agent to begin with: the one that the user asks for, who has to be there;
otherwise the one of the task, and if it is gone the first one. -/
def chooseAgent (agents : List Agent) (requested ofTask : Option String) :
    Except StartFailure Agent :=
  match requested with
  | some agentId =>
    match findAgent? agents agentId with
    | some agent => .ok agent
    | none => .error (.unknownAgent agentId)
  | none =>
    match ofTask.bind (findAgent? agents) <|> agents.head? with
    | some agent => .ok agent
    | none => .error .noAgents

/-- What to begin with: a task, or the tasks to pick one from. -/
inductive Target where
  | task (taskId : String)
  | pick (tasks : List Summary)

/-- The result with its failure reported, as a reason to give up. -/
def orGiveUp {m : Type → Type} {α : Type} [Monad m] (report : Failure → m Unit)
    (result : Except Failure α) : m (Except StartFailure α) := do
  return (← tell report result).mapError .request

/-- What to begin with: a new task in a workspace, the task that the user names, or the
tasks that there are; `none` if there are none. -/
def Target.find {m : Type → Type} [Monad m] (service : Service m) (report : Failure → m Unit)
    (o : Options) (directory : String) : m (Except StartFailure (Option Target)) := do
  if o.newTask then
    let created ← orGiveUp report (← service.createTask (o.workspace.getD directory))
    return created.map fun snapshot => some (.task snapshot.task.id)
  else
    match o.task with
    | some taskId => return .ok (some (.task taskId))
    | none =>
      let found ← orGiveUp report (← service.listTasks)
      return found.map fun tasks => if tasks.isEmpty then none else some (.pick tasks)

end TaskConsole
