import TaskConsole.Session.Basic

/-!
# What events do to a session

`Session.handle` takes an event at a time, in nanoseconds, and gives the session
after it with the commands that the event calls for.  A snapshot of the task adds the
entries that have not been seen (`Session.reconcile`); what the user sent is shown at
once, and when the service tells it in its turn it is taken for its echo
(`Session.absorb?`).
-/

namespace TaskConsole.Session

/-- The number of nanoseconds in a millisecond. -/
def millisecond : Nat := 1000000

/-- Two presses of the key that clears or quits within this time quit. -/
def doublePressWindow : Nat := 1000 * millisecond

/-- Takes a text of the user that the service told for the oldest echo, if it is that
text apart from blanks at its ends. -/
def absorb? (s : Session) (text : String) : Option Session :=
  match s.echoes with
  | echo :: rest => if echo = Text.trim text then some { s with echoes := rest } else none
  | [] => none

/-- Takes an entry of the service that has not been seen: it is added, unless it is an
echo. -/
def receive (s : Session) (e : Entry) : Session :=
  match e.kind with
  | .userText text => (s.absorb? text).getD (s.append e)
  | _ => s.append e

/-- Takes an entry of the service; the flag says whether something new from the agent
has come. -/
def meet (state : Session × Bool) (e : Entry) : Session × Bool :=
  let (s, arrived) := state
  if e.id ∈ s.seen then (s, arrived)
  else ({ s with seen := e.id :: s.seen }.receive e, arrived || e.isAgentContent)

/-- Takes the entries of a snapshot in order; something new from the agent ends the
waiting. -/
def reconcile (s : Session) (entries : List Entry) : Session :=
  let (s, arrived) := entries.foldl meet (s, false)
  if arrived then { s with waiting := false } else s

/-- Takes a snapshot of the task. -/
def apply (s : Session) (snapshot : Snapshot) : Session :=
  { s with task := snapshot.task }.reconcile snapshot.entries

/-- A session with a task. -/
def start (snapshot : Snapshot) (agent : Agent) (agents : List Agent) (theme : Theme)
    (viewport : Viewport) : Session :=
  { theme := theme, task := snapshot.task, agent := agent, agents := agents,
    viewport := viewport : Session }.apply snapshot

/-- The command that fetches the model of the agent, unless it has been fetched. -/
def modelCommands (s : Session) : List Command :=
  if (s.model? s.agent.modelId).isSome then [] else [.fetchModel s.agent.modelId]

/-- The commands that a session begins with. -/
def startupCommands (s : Session) : List Command :=
  .fetchTask s.task.id :: s.modelCommands

/-- Ends the session. -/
def quit (s : Session) : Session := { s with running := false }

/-- Counts a tick. -/
def tick (s : Session) : Session := { s with ticks := s.ticks.add 1 }

/-- Quits at the second press within the window; a first press empties the prompt. -/
def clearOrQuit (s : Session) (now : Nat) : Session :=
  match s.armedAt with
  | some before =>
    if now - before < doublePressWindow then s.quit
    else { s with prompt := {}, armedAt := some now }
  | none => { s with prompt := {}, armedAt := some now }

/-- Sends what was typed, apart from blanks at its ends; it is shown at once. -/
def submit (s : Session) : Session × List Command :=
  let text := Text.trim s.prompt.text
  if text.isEmpty then (s, [])
  else
    let s := { s with prompt := {} }.countLocal
    let s := s.append { id := s.localId "local", kind := .userText text }
    ({ s with echoes := s.echoes ++ [text], waiting := true, scroll := 0 },
      [.sendMessage s.task.id text s.agent.id])

/-- The agent after the active one, in a roster that has one; the first one comes after
the last, and after one that is not in the roster. -/
def nextAgent? (s : Session) : Option Agent :=
  match s.agents.findIdx? fun a => a.id = s.agent.id with
  | some i => s.agents[(i + 1) % s.agents.length]?
  | none => s.agents[0]?

/-- Turns to the next agent, or asks for the roster if there is no other. -/
def switchAgent (s : Session) : Session × List Command :=
  if s.agents.length ≤ 1 then (s, [.listAgents])
  else
    let s := { s with agent := s.nextAgent?.getD s.agent }
    ({ s with model := s.model? s.agent.modelId }, s.modelCommands)

/-- Moves the window up by lines, as far as there are any. -/
def scrollUp (s : Session) (lines : Nat) : Session :=
  let (view, s) := s.feedView
  { s with scroll := min (s.scroll + lines) view.maxScroll }

/-- Moves the window down by lines. -/
def scrollDown (s : Session) (lines : Nat) : Session := { s with scroll := s.scroll - lines }

/-- Changes the prompt. -/
def edit (s : Session) (f : Prompt → Prompt) : Session × List Command :=
  ({ s with prompt := f s.prompt }, [])

/-- What a key does while the prompt has the keys. -/
def handleInput (s : Session) (now : Nat) : KeyAction → Session × List Command
  | .clearOrQuit => (s.clearOrQuit now, [])
  | .submit => s.submit
  | .escape => (s, [.suspendTask s.task.id])
  | .nextAgent => s.switchAgent
  | .help => ({ s with mode := .help }, [])
  | .pageUp => (s.scrollUp s.viewport.halfPage, [])
  | .pageDown => (s.scrollDown s.viewport.halfPage, [])
  | .moveUp => (s.scrollUp 1, [])
  | .moveDown => (s.scrollDown 1, [])
  | .home => s.edit Prompt.home
  | .toEnd => s.edit Prompt.toEnd
  | .cursorLeft => s.edit Prompt.left
  | .cursorRight => s.edit Prompt.right
  | .backspace => s.edit Prompt.backspace
  | .delete => s.edit Prompt.delete
  | .insert c => s.edit fun p => p.insert c
  | .ignored => (s, [])

/-- What a key does.  Any key closes the help and does no more; every key but the one
that clears or quits forgets a first press of that one. -/
def handleKey (s : Session) (now : Nat) (action : KeyAction) : Session × List Command :=
  if action = .ignored then (s, [])
  else
    let s := if action = .clearOrQuit then s else { s with armedAt := none }
    match s.mode with
    | .help => ({ s with mode := .input }, [])
    | .input => s.handleInput now action

/-- What the outcome of a command does.  Outcomes for another task do nothing. -/
def handleOutcome (s : Session) : Outcome → Session × List Command
  | .messageSent taskId text result =>
    if taskId = s.task.id then
      match result with
      | .ok _ => (s, [])
      | .error notice =>
        ({ s with waiting := false, echoes := s.echoes.erase text }.notify notice, [])
    else (s, [])
  | .taskSuspended taskId result =>
    if taskId = s.task.id then
      match result with
      | .ok _ => (s, [.fetchTask taskId])
      | .error notice => (s.notify notice, [])
    else (s, [])
  | .taskFetched taskId result =>
    if taskId = s.task.id then
      match result with
      | .ok snapshot => (s.apply snapshot, [])
      | .error notice => (s.notify notice, [])
    else (s, [])
  | .modelFetched modelId result =>
    match result with
    | .ok info =>
      ({ s with
          model := if modelId = s.agent.modelId then some info else s.model
          models := (modelId, info) :: s.models.filter fun m => m.1 != modelId }, [])
    | .error notice => (s.notify notice, [])
  | .agentsListed result =>
    match result with
    | .ok agents => ({ s with agents := agents }, [])
    | .error notice => (s.notify notice, [])

/-- What an event does, and the commands that it calls for. -/
def handle (s : Session) (now : Nat) : Event → Session × List Command
  | .key action => s.handleKey now action
  | .resize width height => ({ s with viewport := .ofScreen width height }, [])
  | .serverTask taskId => (s, if taskId = s.task.id then [.fetchTask taskId] else [])
  | .outcome o => s.handleOutcome o
  | .tick => (s.tick, [])

end TaskConsole.Session
