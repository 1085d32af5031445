import TaskConsole.Launch.Settings
import TaskConsole.Launch.Start
import TaskConsole.Service.Client

/-!
# The program until it takes the terminal

`Program.begin` does what comes before the terminal is taken: it reads the settings,
opens the logs, makes the client and finds what to begin with.  All that it needs from
outside is in a `World`.  An `Ending` says with what code the program ends, and what it
prints then.
-/

namespace TaskConsole

/-- What the program finds around it. -/
structure Surroundings where
  home : Option String
  directory : String
  /-- The service that the environment names. -/
  server : Option String

/-- What the program can do before it takes the terminal. -/
structure World (m : Type → Type) where
  readSettings : String → m FileContent
  /-- Opens the logs in a directory; the answer says what stands in the way. -/
  openLogs : String → m (Option String)
  /-- Prints a line beside the output. -/
  warn : String → m Unit
  /-- Brings requests to the service, and waits for so many seconds. -/
  exchange : (timeout : Nat) → Exchange m
  report : Failure → m Unit

/-- How far the program comes. -/
inductive Beginning where
  /-- There are no tasks. -/
  | nothing
  | failed (failure : StartFailure)
  | ready (settings : Settings) (address : Address) (target : Target)

namespace Program

/-- What is printed if there are no tasks. -/
def emptyText (server : String) : String :=
  s!"No tasks found on {server}. Start one with --new."

/-- What is printed if the logs cannot be opened. -/
def logText (directory obstacle : String) : String :=
  s!"log_dir_error: {directory}: {obstacle}"

/-- The settings of a file, or the defaults if it does not count, with the service that
the user names. -/
def settings (around : Surroundings) (o : Options) (file : FileContent) : Settings :=
  let s := match Settings.ofFile file with
    | .ok s => s
    | .error _ => {}
  s.withServer around.server o.server

/-- The file of the settings. -/
def settingsFile? (around : Surroundings) (o : Options) : Option String :=
  o.config <|> around.home.map Settings.defaultFile

variable {m : Type → Type} [Monad m]

/-- Reads the settings. -/
def readSettings (world : World m) (around : Surroundings) (o : Options) : m Settings := do
  match settingsFile? around o with
  | some file => return settings around o (← world.readSettings file)
  | none => return settings around o .missing

/-- Opens the logs; the program goes on without them. -/
def openLogs (world : World m) (directory : String) : m Unit := do
  match ← world.openLogs directory with
  | some obstacle => world.warn (logText directory obstacle)
  | none => return ()

/-- Does all that comes before the terminal is taken. -/
def begin (world : World m) (around : Surroundings) (o : Options) : m Beginning := do
  let s ← readSettings world around o
  openLogs world (s.logPath around.home)
  match ← orGiveUp world.report (Client.base s.server) with
  | .error failure => return .failed failure
  | .ok address =>
    let service := Client.service (world.exchange s.timeout) address
    match ← Target.find service world.report o around.directory with
    | .error failure => return .failed failure
    | .ok (some target) => return .ready s address target
    | .ok none => do
      world.warn (emptyText s.server)
      return .nothing

end Program

/-- How the program ends. -/
structure Ending where
  code : Nat := 0
  output : String := ""
  complaint : String := ""
deriving DecidableEq, Inhabited

namespace Ending

/-- The exit code of a program that is called wrongly. -/
def misuseCode : Nat := 2

/-- The exit code of a program that gives up. -/
def failureCode : Nat := 1

/-- How the program ends if its arguments give it nothing to do. -/
def ofRefusal (r : Refusal) : Ending :=
  match r with
  | .help => { output := Options.helpText }
  | .version => { output := Options.versionText }
  | .misuse m => { code := misuseCode, complaint := m.complaint }

/-- How the program ends, perhaps with a failure. -/
def ofFailure? : Option StartFailure → Ending
  | none => {}
  | some failure => { code := failureCode, complaint := failure.report }

end Ending

end TaskConsole
