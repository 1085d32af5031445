import TaskConsole.Launch.Program
import TaskConsole.Picker
import TaskConsole.Session.Step

/-!
# The console

A `Console` is what the terminal shows: the picker, then a session, then nothing any
more.  `Console.handle` gives an event to what is shown; choosing a task opens a
session on it, for which the task and the agents are fetched.  Events come in batches
(`nextBatch`), and a session that ends within a batch still takes the rest of it.
-/

namespace TaskConsole

/-- What the terminal shows. -/
inductive Stage where
  | picking (picker : Picker Summary)
  | working (session : Session)
  | ended (failure : Option StartFailure)

/-- What the terminal shows, with its size. -/
structure Console where
  width : Nat
  height : Nat
  stage : Stage

/-- What a console needs to open a session. -/
structure Backing (m : Type → Type) where
  service : Service m
  report : Failure → m Unit
  theme : Theme
  /-- The agent that the user asks for. -/
  agent : Option String

/-- The number of milliseconds between two ticks. -/
def tickInterval : Nat := 100

/-- The number of events that may join the first one of a batch. -/
def batchLimit : Nat := 128

/-- The events at the front of a queue, as many as a limit allows, and the others. -/
def nextBatch {α : Type} (limit : Nat) (queue : List α) : List α × List α := queue.splitAt limit

namespace Console

/-- Whether there is something to show. -/
def isOpen (c : Console) : Bool :=
  match c.stage with
  | .picking _ => true
  | .working s => s.running
  | .ended _ => false

/-- Whether a session is shown. -/
def isWorking (c : Console) : Bool :=
  match c.stage with
  | .working _ => true
  | .picking _ => false
  | .ended _ => false

/-- How the program ends with what is shown. -/
def ending (c : Console) : Ending :=
  match c.stage with
  | .ended failure => .ofFailure? failure
  | .picking _ => {}
  | .working _ => {}

variable {m : Type → Type} [Monad m]

/-- Fetches a task and the agents, and opens a session on it. -/
def openSession (b : Backing m) (viewport : Viewport) (taskId : String) :
    m (Except StartFailure Session) := do
  match ← orGiveUp b.report (← b.service.getTask taskId) with
  | .error failure => return .error failure
  | .ok snapshot =>
    match ← orGiveUp b.report (← b.service.listAgents) with
    | .error failure => return .error failure
    | .ok agents =>
      return (chooseAgent agents b.agent snapshot.task.agentId).map fun agent =>
        Session.start snapshot agent agents b.theme viewport

/-- Shows a session on a task, or nothing if it cannot be opened. -/
def openTask (b : Backing m) (c : Console) (taskId : String) : m (Console × List Command) := do
  match ← openSession b (.ofScreen c.width c.height) taskId with
  | .ok s => return ({ c with stage := .working s }, s.startupCommands)
  | .error failure => return ({ c with stage := .ended (some failure) }, [])

/-- Shows what to begin with. -/
def start (b : Backing m) (width height : Nat) (target : Target) :
    m (Console × List Command) := do
  let c : Console := { width := width, height := height, stage := .ended none }
  match target with
  | .task taskId => openTask b c taskId
  | .pick tasks =>
    return ({ c with stage := .picking (.ofItems tasks (pickerRows height)) }, [])

/-- Goes on with the picker when its choice may have been made. -/
def afterChoice (b : Backing m) (c : Console) (p : Picker Summary) :
    m (Console × List Command) := do
  if p.choice = .pending then return ({ c with stage := .picking p }, [])
  else
    match p.confirmed? with
    | some summary => openTask b c summary.id
    | none => return ({ c with stage := .ended none }, [])

/-- The console with the size that an event tells. -/
def resized (c : Console) : Event → Console
  | .resize width height => { c with width := width, height := height }
  | .key _ => c
  | .serverTask _ => c
  | .outcome _ => c
  | .tick => c

/-- Gives an event to what is shown: the console after it, and the commands that it
calls for. -/
def handle (b : Backing m) (now : Nat) (c : Console) (e : Event) :
    m (Console × List Command) := do
  let c := c.resized e
  match c.stage, e with
  | .picking p, .key action => afterChoice b c (p.handle action)
  | .picking p, .resize _ height =>
    return ({ c with stage := .picking (p.setPageSize (pickerRows height)) }, [])
  | .working s, e =>
    let (s, commands) := s.handle now e
    return ({ c with stage := .working s }, commands)
  | _, _ => return (c, [])

/-- Gives the events of a batch, one after another. -/
def handleAll (b : Backing m) (now : Nat) (c : Console) (events : List Event) :
    m (Console × List Command) :=
  events.foldlM (fun (c, commands) e => do
    let (c, more) ← handle b now c e
    return (c, commands ++ more)) (c, [])

/-- The number of commands that can follow from one another: a fetch can follow, and
nothing follows a fetch. -/
def followLimit : Nat := 2

/-- Carries commands out, and gives their outcomes to the console, with the commands
that follow from them. -/
def carryOut (b : Backing m) (now : Nat) : (limit : Nat) → Console → List Command → m Console
  | 0, c, _ => return c
  | limit + 1, c, commands =>
    commands.foldlM (fun c command => do
      let outcome ← command.execute b.service b.report
      let (c, more) ← handle b now c (.outcome outcome)
      carryOut b now limit c more) c

/-- Gives events one by one, and carries out at once what each of them calls for; those
behind the end of the console are lost. -/
def play (b : Backing m) (now : Nat) (c : Console) (events : List Event) : m Console :=
  events.foldlM (fun c e => do
    if c.isOpen then
      let (c, commands) ← handle b now c e
      carryOut b now followLimit c commands
    else return c) c

end Console

end TaskConsole
