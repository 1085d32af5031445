import TaskConsole.Number.Count
import TaskConsole.Timestamp
import TaskConsole.Tool

/-!
# Tasks

A `Task` is the head of a task: its name, its workspace, what it is doing and what it
has used.  A `Snapshot` is a task with the messages it holds at one moment.  The
parts of a message keep their places in the list they were sent in, whichever of them
could be read.  `Usage.contextPercent` says how full the window of a model is.
-/

namespace TaskConsole

/-- What a task is doing. -/
inductive Phase where
  | awaiting | running | suspended
deriving DecidableEq, Inhabited

/-- The name of a phase. -/
def Phase.label : Phase → String
  | awaiting => "awaiting"
  | running => "running"
  | suspended => "suspended"

/-- The phase of a name. -/
def Phase.ofLabel? (label : String) : Option Phase :=
  [Phase.awaiting, .running, .suspended].find? fun phase => phase.label = label

/-- What a task has used. -/
structure Usage where
  input : Count := 0
  output : Count := 0
  cacheRead : Count := 0
  cacheWrite : Count := 0
  cost : Float := 0
deriving Inhabited

namespace Usage

/-- All tokens together. -/
def totalTokens (u : Usage) : Count :=
  ((u.input.add u.output).add u.cacheRead).add u.cacheWrite

/-- The part of a window that is used, in percent, at most 100; of an empty window
nothing is. -/
def contextPercent (u : Usage) (window : Count) : Nat :=
  if window = 0 then 0 else min 100 ((Count.scale u.totalTokens 100).toNat / window.toNat)

end Usage

/-- The head of a task. -/
structure Task where
  id : String
  title : String := ""
  workspace : String := ""
  phase : Phase := .awaiting
  usage : Usage := {}
  agentId : Option String := none
deriving Inhabited

/-- An agent, with the model that it runs on. -/
structure Agent where
  id : String
  name : String
  modelId : String
deriving DecidableEq, Inhabited

/-- A model. -/
structure ModelInfo where
  name : String
  contextWindow : Count := 0
deriving DecidableEq, Inhabited

/-- A task as it stands in a list of tasks. -/
structure Summary where
  id : String
  title : String := ""
  workspace : String := ""
  phase : Phase := .awaiting
  updatedAt : Option Timestamp := none
deriving DecidableEq, Inhabited

/-- Who speaks in a message. -/
inductive Role where
  | user | assistant | other
deriving DecidableEq, Inhabited

/-- The name of a role. -/
def Role.label : Role → String
  | user => "user"
  | assistant => "assistant"
  | other => "other"

/-- A part of a message. -/
inductive Part where
  | text (text : String)
  | call (call : ToolCall)
  | result (result : ToolResult)
deriving DecidableEq, Inhabited

/-- A part with its place among the parts that were sent. -/
structure PlacedPart where
  index : Nat
  part : Part
deriving DecidableEq, Inhabited

/-- A message of a task; without a time of its own it counts as made on arrival. -/
structure Message where
  id : String
  role : Role
  createdAt : Option Timestamp := none
  parts : List PlacedPart := []
deriving DecidableEq, Inhabited

/-- A task with its messages. -/
structure Snapshot where
  task : Task
  messages : List Message := []
deriving Inhabited

end TaskConsole
