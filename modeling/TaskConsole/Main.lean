import Std.Async.DNS
import Std.Async.TCP
import Std.Async.Timer
import TaskConsole.Keyboard
import TaskConsole.Screen.ConsoleFrame
import TaskConsole.Screen.Terminal
import TaskConsole.Service.Connection

/-!
# The program

This is the layer that touches the world: connections, files, the environment and the
terminal.  What to do with what they bring is decided elsewhere; `main` puts it together.
The terminal is expected to hand over each byte as it is typed, and the size of its
screen is that of the variables `COLUMNS` and `LINES`.
-/

namespace TaskConsole

open Std.Async Std.Net

/-! ## Connections -/

/-- The number of bytes to take from a connection at once. -/
def pieceSize : UInt64 := 65536

/-- Where the host of an address is on the net. -/
def findHost (host : Host) : Async IPAddr := do
  match host with
  | .ipv4 value =>
    let byte (weight : Nat) : UInt8 := UInt8.ofNat (value / weight)
    return .v4 (.ofParts (byte 0x1000000) (byte 0x10000) (byte 0x100) (byte 1))
  | .ipv6 pieces =>
    let piece (i : Nat) : UInt16 := UInt16.ofNat (pieces.getD i 0)
    return .v6 (.ofParts (piece 0) (piece 1) (piece 2) (piece 3) (piece 4) (piece 5) (piece 6)
      (piece 7))
  | .name cs =>
    match (← DNS.getAddrInfo (String.ofList cs) "")[0]? with
    | some place => return place
    | none => throw (IO.userError "no address for the host")

/-- Opens a connection to the host of an address. -/
def connect (a : Address) : Async TCP.Socket.Client := do
  match a.host with
  | none => throw (IO.userError "no host to connect to")
  | some host =>
    if a.scheme != "http".toList then throw (IO.userError "URL scheme is not allowed")
    let port := UInt16.ofNat (a.port.getD 80)
    let place : SocketAddress := match ← findHost host with
      | .v4 ip => .v4 ⟨ip, port⟩
      | .v6 ip => .v6 ⟨ip, port⟩
    let socket ← TCP.Socket.Client.mk
    socket.connect place
    return socket

/-- Brings a request to the service, and hands the reply on as it comes until it is whole
or nobody wants more of it. -/
def converse (request : Request) (take : Receiver → IO (Option Receiver)) : Async Receiver := do
  let socket ← connect request.address
  socket.send ⟨request.bytes.toArray⟩
  let mut receiver : Receiver := {}
  let mut isOpen := true
  while isOpen do
    match ← socket.recv? pieceSize with
    | none => isOpen := false
    | some piece =>
      receiver := receiver.feed piece.toList
      match ← take receiver with
      | none => isOpen := false
      | some rest =>
        receiver := rest
        if rest.awaiting = .nothing then isOpen := false
  return receiver

/-- The failure to bring a request to the service. -/
def unreached (request : Request) (obstacle : String) : Failure :=
  .transport s!"error sending request for url ({request.address.text}): {obstacle}"

/-- Brings requests to the service over the net, and waits for so many seconds. -/
def exchange (timeout : Nat) : Exchange IO := fun request => do
  let answer : Async (Option Receiver) := some <$> converse request fun r => return some r
  let limit : Async (Option Receiver) := do
    sleep (.ofNat (timeout * 1000))
    return none
  try
    match ← (Async.race answer limit).block with
    | none => return .error (unreached request "operation timed out")
    | some receiver =>
      match receiver.reply? with
      | some reply => return .ok reply
      | none => return .error (unreached request "connection closed before message completed")
  catch e => return .error (unreached request (toString e))

/-! ## What is shared -/

/-- What the parts of the running program share. -/
structure Desk where
  /-- The events that wait, the oldest first. -/
  events : IO.Ref (List Event)
  /-- The bytes of the keyboard that wait, the oldest first. -/
  typed : IO.Ref (List UInt8)
  /-- Whether the program is over. -/
  isOver : IO.Ref Bool

namespace Desk

/-- A desk with nothing on it. -/
def empty : IO Desk := return ⟨← IO.mkRef [], ← IO.mkRef [], ← IO.mkRef false⟩

/-- Lays events on the desk. -/
def put (d : Desk) (events : List Event) : IO Unit := d.events.modify (· ++ events)

/-- Listens to the events of the service once, as long as they come. -/
def hear (d : Desk) (request : Request) : Async Unit := do
  let progress ← IO.mkRef (some ({} : EventStream.Progress))
  let take (r : Receiver) : IO (Option Receiver) := do
    if r.status?.any fun status => status < 200 || 300 ≤ status then return none
    let (bytes, r) := r.takeContent
    match ← progress.get with
    | none => return none
    | some p =>
      let (tasks, next) := p.feed bytes
      progress.set next
      d.put (tasks.map .serverTask)
      return if ← d.isOver.get then none else some r
  discard (converse request take)
  if let some p ← progress.get then d.put (p.close.map .serverTask)

/-- Listens to the events of the service again and again. -/
def listen (d : Desk) (server : String) : Async Unit := do
  if let some request := Client.eventRequest? server then
    while !(← d.isOver.get) do
      try d.hear request catch _ => pure ()
      sleep (.ofNat Client.retryDelay)

/-- Takes what is typed, byte by byte, up to the end of the program. -/
def readKeyboard (d : Desk) : IO Unit := do
  let input ← IO.getStdin
  let mut isOpen := true
  while isOpen do
    let bytes ← input.read 1
    d.typed.modify (· ++ bytes.toList)
    if bytes.isEmpty then d.isOver.set true
    if ← d.isOver.get then isOpen := false

/-- Carries a command out beside all else. -/
def dispatch (d : Desk) (b : Backing IO) (command : Command) : IO Unit := do
  let work : IO Unit := do d.put [.outcome (← command.execute b.service b.report)]
  discard (IO.asTask work .dedicated)

end Desk

/-! ## Files and the environment -/

/-- What stands in the way of a file operation. -/
def obstacleText : IO.Error → String
  | .inappropriateType _ code details => s!"{details} (os error {code})"
  | .permissionDenied _ code details => s!"{details} (os error {code})"
  | .alreadyExists _ code details => s!"{details} (os error {code})"
  | .noFileOrDirectory _ code details => s!"{details} (os error {code})"
  | e => toString e

/-- Reads the file of the settings. -/
def readSettings (path : String) : IO FileContent := do
  try return .bytes (← IO.FS.readBinFile path).toList
  catch
    | .noFileOrDirectory .. => return .missing
    | _ => return .barred

/-- Makes a directory, and those above it that are missing. -/
def makeDirectory (path : String) : IO Unit := do
  try IO.FS.createDir path
  catch
    | .noFileOrDirectory .. => IO.FS.createDirAll path
    | .alreadyExists .. => IO.FS.createDirAll path
    | e => throw e

/-- The day of today. -/
def today : IO String := do
  let now ← Std.Time.Timestamp.now
  return (CivilDate.ofDays (now.toSecondsSinceUnixEpoch.val / 86400)).text

/-- A place for the log, once it is open. -/
abbrev Log := IO.Ref (Option IO.FS.Handle)

/-- Writes a line into the log, if it is open. -/
def Log.write (log : Log) (line : String) : IO Unit := do
  if let some file ← log.get then
    try
      file.putStrLn line
      file.flush
    catch _ => pure ()

/-- Opens the log in a directory. -/
def Log.start (log : Log) (directory : String) : IO (Option String) := do
  try
    makeDirectory directory
    log.set (some (← IO.FS.Handle.mk (below directory ("taskdeck.log." ++ (← today))) .append))
    log.write "taskdeck starting"
    return none
  catch e => return some (obstacleText e)

/-- The world that the program runs in. -/
def world (log : Log) : World IO where
  readSettings := readSettings
  openLogs := log.start
  warn := IO.eprintln
  exchange := exchange
  report failure := log.write failure.text

/-- A number in the environment, or what it is otherwise. -/
def sizeVariable (name : String) (otherwise : Nat) : IO Nat := do
  return ((← IO.getEnv name).bind String.toNat?).getD otherwise

/-! ## The console -/

/-- The milliseconds between two looks at the desk. -/
def pause : UInt32 := 10

/-- The events that wait on the desk, those of the keyboard first. -/
def Desk.takeEvents (d : Desk) (begun : List UInt8) : IO (List Event × List UInt8) := do
  let (presses, begun) := Keyboard.feed begun (← d.typed.modifyGet fun bytes => (bytes, []))
  let keys := (presses.map KeyPress.action).filter (· != .ignored)
  let batch ← d.events.modifyGet fun events =>
    nextBatch (batchLimit + 1) (keys.map Event.key ++ events)
  return (batch, begun)

/-- Shows the console and gives it what happens, as long as it is open. -/
def runConsole (d : Desk) (b : Backing IO) (server : String) (home : Option String)
    (c : Console) : IO Console := do
  let output ← IO.getStdout
  let mut c := c
  let mut begun : List UInt8 := []
  let mut shown := ""
  let mut listening := false
  let mut lastTick ← IO.monoNanosNow
  while c.isOpen && !(← d.isOver.get) do
    if let some (frame, kept) := c.frame? b.theme home then
      c := kept
      let text := Terminal.paint frame
      if text != shown then
        output.putStr text
        output.flush
        shown := text
    if c.isWorking && !listening then
      listening := true
      discard (d.listen server).toIO
    IO.sleep pause
    let (batch, rest) ← d.takeEvents begun
    begun := rest
    let now ← IO.monoNanosNow
    let isDue := lastTick + tickInterval * Session.millisecond ≤ now
    if isDue then lastTick := now
    let (next, commands) ← c.handleAll b now (batch ++ if isDue then [.tick] else [])
    c := next
    for command in commands do d.dispatch b command
  return c

/-- Takes the terminal, runs the console and gives the terminal back.  The answer to the
last question to the terminal ends the reading of the keyboard. -/
def takeTerminal (log : Log) (o : Options) (home : Option String) (s : Settings) (a : Address)
    (target : Target) : IO Ending := do
  let output ← IO.getStdout
  let report (failure : Failure) : IO Unit := log.write failure.text
  let b : Backing IO := ⟨Client.service (exchange s.timeout) a, report, s.theme, o.agent⟩
  let d ← Desk.empty
  output.putStr Terminal.enter
  output.flush
  discard (IO.asTask d.readKeyboard .dedicated)
  let (c, commands) ← Console.start b (← sizeVariable "COLUMNS" 80) (← sizeVariable "LINES" 24)
    target
  for command in commands do d.dispatch b command
  let c ← runConsole d b s.server home c
  d.isOver.set true
  output.putStr (Terminal.leave ++ Terminal.question)
  output.flush
  return c.ending

/-- Runs the program with its options. -/
def runWith (o : Options) : IO Ending := do
  let log : Log ← IO.mkRef none
  let home := (← IO.getEnv "HOME").filter fun path => !path.isEmpty
  let around : Surroundings :=
    { home := home
      directory := toString (← IO.currentDir)
      server := ← IO.getEnv "TASKDECK_SERVER" }
  match ← Program.begin (world log) around o with
  | .nothing => return {}
  | .failed failure => return .ofFailure? failure
  | .ready s a target => takeTerminal log o home s a target

end TaskConsole

open TaskConsole in
/-- Runs the program with its arguments. -/
def main (args : List String) : IO UInt32 := do
  let ending ← match Options.read args with
    | .error refusal => pure (Ending.ofRefusal refusal)
    | .ok o => runWith o
  IO.print ending.output
  IO.eprint ending.complaint
  return UInt32.ofNat ending.code
