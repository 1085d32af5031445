/-!
# The command line

`Options` are what the user asks for on the command line, and `Options.read` reads them
argument by argument.  A request for the help or the version ends the reading at once;
so does the first argument that is wrong.  What does not go together is found at the
end.
-/

namespace TaskConsole

/-- What the user asks for. -/
structure Options where
  server : Option String := none
  task : Option String := none
  agent : Option String := none
  newTask : Bool := false
  workspace : Option String := none
  config : Option String := none
deriving DecidableEq, Inhabited

/-- What can be wrong with the arguments. -/
inductive Misuse where
  | unknownArgument | invalidValue | tooManyValues | conflict | missing
deriving DecidableEq, Inhabited

/-- Why there are no options to go on with. -/
inductive Refusal where
  | help
  | version
  | misuse (m : Misuse)
deriving DecidableEq, Inhabited

/-- An option that takes a value. -/
inductive ValueOption where
  | server | task | agent | workspace | config
deriving DecidableEq, Inhabited

namespace ValueOption

/-- Every option that takes a value, once. -/
def all : List ValueOption := [server, task, agent, workspace, config]

/-- The name of an option behind its dashes. -/
def name : ValueOption → String
  | server => "server"
  | task => "task"
  | agent => "agent"
  | workspace => "workspace"
  | config => "config"

/-- The value of an option. -/
def get? (o : Options) : ValueOption → Option String
  | server => o.server
  | task => o.task
  | agent => o.agent
  | workspace => o.workspace
  | config => o.config

/-- The options with a value for one. -/
def set (o : Options) (value : String) : ValueOption → Options
  | server => { o with server := some value }
  | task => { o with task := some value }
  | agent => { o with agent := some value }
  | workspace => { o with workspace := some value }
  | config => { o with config := some value }

end ValueOption

/-- Whether an option names a path, which cannot be empty. -/
def ValueOption.isPath : ValueOption → Bool
  | workspace => true
  | config => true
  | server => false
  | task => false
  | agent => false

/-- What an argument is. -/
inductive Argument where
  | help
  | version
  | newTask
  /-- A flag with a value behind an equals sign, which it does not take. -/
  | overfull
  /-- An option, perhaps with its value behind an equals sign. -/
  | option (o : ValueOption) (value : Option String)
  /-- Two dashes, behind which nothing is an option. -/
  | rest
  | unknown
  /-- Anything that does not look like an option; a single dash does not. -/
  | word
deriving DecidableEq, Inhabited

namespace Argument

/-- The name of an option and its value behind an equals sign. -/
def cut (cs : List Char) : List Char × Option (List Char) :=
  match cs.dropWhile (· != '=') with
  | _ :: value => (cs.takeWhile (· != '='), some value)
  | [] => (cs, none)

/-- The flag of a name. -/
def flag? (name : List Char) : Option Argument :=
  if name = "help".toList then some help
  else if name = "version".toList then some version
  else if name = "new".toList then some newTask
  else none

/-- What an argument with two dashes is. -/
def ofLong (cs : List Char) : Argument :=
  let (name, value) := cut cs
  match flag? name with
  | some flag => if value.isSome then .overfull else flag
  | none =>
    match ValueOption.all.find? fun o => o.name.toList = name with
    | some o => .option o (value.map String.ofList)
    | none => .unknown

/-- What an argument is. -/
def ofText (text : String) : Argument :=
  match text.toList with
  | ['-', '-'] => .rest
  | '-' :: '-' :: cs => ofLong cs
  | ['-'] => .word
  | '-' :: 'h' :: _ => .help
  | '-' :: 'V' :: _ => .version
  | '-' :: _ => .unknown
  | _ => .word

end Argument

namespace Options

/-- What the program is for. -/
def aboutText : String := "Terminal client for a remote multi-agent task service"

/-- How the program is called. -/
def helpText : String :=
  aboutText ++ "\n\nUsage: taskdeck [OPTIONS]\n\nOptions:\n" ++ String.join
    (["      --server <URL>      Base URL of the task service",
      "      --task <ID>         Open this task instead of picking one",
      "      --agent <ID>        Start with this agent selected",
      "      --new               Create a new task",
      "      --workspace <PATH>  Workspace for a new task (defaults to the current directory)",
      "      --config <PATH>     Path to the config file",
      "  -h, --help              Print help",
      "  -V, --version           Print version"].map fun line => line ++ "\n")

/-- The name of the program with its version. -/
def versionText : String := "taskdeck 0.1.0\n"

/-- The options with a value for one that has none yet. -/
def give (o : Options) (option : ValueOption) (value : String) : Except Refusal Options :=
  if (option.get? o).isSome then .error (.misuse .conflict)
  else if option.isPath && value.isEmpty then .error (.misuse .invalidValue)
  else .ok (option.set o value)

/-- Whether the options can go together. -/
def check (o : Options) : Except Refusal Options :=
  if o.newTask && o.task.isSome then .error (.misuse .conflict)
  else if o.workspace.isSome && !o.newTask && o.task.isNone then .error (.misuse .missing)
  else .ok o

/-- The options with those that were read last, which need a value. -/
def settle (o : Options) : Option (ValueOption × Option String) → Except Refusal Options
  | none => .ok o
  | some (_, none) => .error (.misuse .invalidValue)
  | some (option, some value) => o.give option value

/-- Reads arguments; `last` is an option whose value may still have to follow.  It is
settled when the next one is known to be right. -/
def readFrom (o : Options) (last : Option (ValueOption × Option String)) :
    List String → Except Refusal Options
  | [] => do (← o.settle last).check
  | arg :: rest =>
    match Argument.ofText arg with
    | .unknown => .error (.misuse .unknownArgument)
    | .overfull => .error (.misuse .tooManyValues)
    | .word =>
      match last with
      | some (option, none) => readFrom o (some (option, some arg)) rest
      | _ => .error (.misuse .unknownArgument)
    | .rest =>
      if rest.isEmpty then do (← o.settle last).check else .error (.misuse .unknownArgument)
    | .help => do
      let _ ← o.settle last
      throw .help
    | .version => do
      let _ ← o.settle last
      throw .version
    | .newTask => do
      let o ← o.settle last
      if o.newTask then throw (.misuse .conflict)
      else readFrom { o with newTask := true } none rest
    | .option option none => do readFrom (← o.settle last) (some (option, none)) rest
    | .option option (some value) => do
      let o ← o.settle last
      readFrom (← o.give option value) none rest

/-- Reads the arguments of the program. -/
def read (args : List String) : Except Refusal Options := readFrom {} none args

end Options

/-- A misuse in words. -/
def Misuse.text : Misuse → String
  | unknownArgument => "an argument is not known"
  | invalidValue => "an option needs a value"
  | tooManyValues => "a flag takes no value"
  | conflict => "an argument cannot stand beside another one"
  | missing => "an argument needs another one beside it"

/-- What is printed about a misuse. -/
def Misuse.complaint (m : Misuse) : String :=
  "error: " ++ m.text ++ "\n\nFor more information, try '--help'.\n"

end TaskConsole
