import TaskConsole.Json.Reader
import TaskConsole.Json.Record
import TaskConsole.Task.Basic

/-!
# Tasks in JSON

The readers of what the service sends: `Snapshot.ofJson?`, `Message.ofJson?`,
`Summary.ofJson?`, `Agent.ofJson?` and `ModelInfo.ofJson?`.  The parts of a message
are read one by one (`Part.ofJson?`), and one that cannot be read is dropped without
harm to the others; each of them has to be a value that can be handed on
(`Json.keep?`), within the nesting that is left for it.  What a tool was given or gave
is always written as an object.
-/

namespace TaskConsole

/-- How deep arrays and objects may nest in a value that is handed on, counted from
the root of its text. -/
def nestingLimit : Nat := 127

namespace ToolInvocation

/-- The invocation of a tool with the given fields. -/
def ofJson? (kind : ToolKind) (input : Json) : Option ToolInvocation :=
  match kind with
  | .read => do
    let [path] ← input.namedFields? ["path"] | none
    return read (← Json.required Json.asText? path)
  | .write => do
    let [path, content] ← input.namedFields? ["path", "content"] | none
    return write (← Json.required Json.asText? path) (← Json.textField content)
  | .edit => do
    let [path] ← input.namedFields? ["path"] | none
    return edit (← Json.required Json.asText? path)
  | .run => do
    let [command] ← input.namedFields? ["command"] | none
    return run (← Json.required Json.asText? command)
  | .search => do
    let [pattern, path] ← input.namedFields? ["pattern", "path"] | none
    return search (← Json.required Json.asText? pattern) (← Json.nullable Json.asText? path)
  | .list => do
    let [path] ← input.namedFields? ["path"] | none
    return list (← Json.required Json.asText? path)
  | .handoff => do
    let [agent, message] ← input.namedFields? ["agent", "message"] | none
    return handoff (← Json.required Json.asText? agent) (← Json.textField message)

end ToolInvocation

namespace ToolOutput

/-- An exit code has 32 bits. -/
def exitCode? (value : Json) : Option Int :=
  value.asInt?.filter fun i => -0x80000000 ≤ i && i < 0x80000000

/-- The output of a tool with the given fields. -/
def ofJson? (kind : ToolKind) (output : Json) : Option ToolOutput :=
  match kind with
  | .read => do
    let [lines] ← output.namedFields? ["lines"] | none
    return read (← Json.countField lines)
  | .write => do
    let [bytes] ← output.namedFields? ["bytes"] | none
    return write (← Json.countField bytes)
  | .edit => do
    let [added, removed] ← output.namedFields? ["added", "removed"] | none
    return edit (← Json.countField added) (← Json.countField removed)
  | .run => do
    let [code, text] ← output.namedFields? ["exit_code", "output"] | none
    return run (← Json.orElse 0 exitCode? code) (← Json.textField text)
  | .search => do
    let [hits] ← output.namedFields? ["matches"] | none
    return search (← Json.countField hits)
  | .list => do
    let [entries] ← output.namedFields? ["entries"] | none
    return list (← Json.orElse [] (Json.listOf Json.asText?) entries)
  | .handoff => do
    let [agent] ← output.namedFields? ["agent"] | none
    return handoff (← Json.required Json.asText? agent)

end ToolOutput

namespace Part

/-- What a tool was given or gave, when nothing is said about it. -/
def nothing : Json := .object []

/-- The part that a value is, unless it is of no known kind or lacks what its kind
needs. -/
def ofJson? (value : Json) : Option Part := do
  let [kind, content, id, callId, tool, input, output, error] ← value.fields?
    ["type", "text", "id", "call_id", "tool", "input", "output", "error"] | none
  let kind ← Json.required Json.asText? kind
  let content ← Json.textField content
  let id ← Json.textField id
  let callId ← Json.textField callId
  let tool ← Json.textField tool
  let input ← Json.nullable some input
  let output ← Json.nullable some output
  let error ← Json.nullable Json.asText? error
  match kind with
  | "text" => return .text content
  | "tool_call" => do
    let invocation ← ToolInvocation.ofJson? (← ToolKind.ofName? tool) (input.getD nothing)
    return .call { id := id, invocation := invocation }
  | "tool_result" => do
    let kind ← ToolKind.ofName? tool
    match error with
    | some message => return .result { callId := callId, output := .failed kind message }
    | none =>
      let output ← ToolOutput.ofJson? kind (output.getD nothing)
      return .result { callId := callId, output := output }
  | _ => none

/-- The parts that can be read, each with its place. -/
def ofItems (items : List Json) : List PlacedPart :=
  items.zipIdx.filterMap fun item =>
    (ofJson? item.1).map fun part => { index := item.2, part := part }

/-- The parts of an array that is nested `level` deep. -/
def listOfJson? (level : Nat) (value : Json) : Option (List PlacedPart) := do
  let items ← value.asArray?
  return ofItems (← items.mapM (Json.keep? (nestingLimit - level)))

end Part

/-- The phase that a value names. -/
def Phase.ofJson? (value : Json) : Option Phase := value.word?.bind ofLabel?

/-- The role that a value names. -/
def Role.ofJson? (value : Json) : Option Role :=
  value.word?.map fun word =>
    if word = "user" then .user else if word = "assistant" then .assistant else .other

/-- The moment that a value names. -/
def Timestamp.ofJson? (value : Json) : Option Timestamp := value.asText?.bind parse?

/-- The usage that a value tells. -/
def Usage.ofJson? (value : Json) : Option Usage := do
  let [input, output, cacheRead, cacheWrite, cost] ← value.fields?
    ["input_tokens", "output_tokens", "cache_read_tokens", "cache_write_tokens", "cost"] | none
  return {
    input := ← Json.countField input
    output := ← Json.countField output
    cacheRead := ← Json.countField cacheRead
    cacheWrite := ← Json.countField cacheWrite
    cost := ← Json.orElse 0 Json.asFloat? cost }

/-- The agent that a value describes. -/
def Agent.ofJson? (value : Json) : Option Agent := do
  let [id, name, modelId] ← value.fields? ["id", "name", "model_id"] | none
  return {
    id := ← Json.required Json.asText? id
    name := ← Json.required Json.asText? name
    modelId := ← Json.required Json.asText? modelId }

/-- The model that a value describes. -/
def ModelInfo.ofJson? (value : Json) : Option ModelInfo := do
  let [name, window] ← value.fields? ["name", "context_window"] | none
  return {
    name := ← Json.required Json.asText? name
    contextWindow := ← Json.countField window }

/-- The line of a list of tasks that a value describes. -/
def Summary.ofJson? (value : Json) : Option Summary := do
  let [id, title, workspace, phase, updatedAt] ← value.fields?
    ["id", "title", "workspace", "phase", "updated_at"] | none
  return {
    id := ← Json.required Json.asText? id
    title := ← Json.textField title
    workspace := ← Json.textField workspace
    phase := ← Json.orElse .awaiting Phase.ofJson? phase
    updatedAt := ← Json.nullable Timestamp.ofJson? updatedAt }

/-- The message that a value describes, nested `level` deep. -/
def Message.ofJson? (level : Nat) (value : Json) : Option Message := do
  let [id, role, createdAt, parts] ← value.fields? ["id", "role", "created_at", "parts"] | none
  return {
    id := ← Json.required Json.asText? id
    role := ← Json.required Role.ofJson? role
    createdAt := ← Json.orElse none (fun v => (Timestamp.ofJson? v).map some) createdAt
    parts := ← Json.orElse [] (Part.listOfJson? (level + 1)) parts }

/-- The snapshot that a value describes. -/
def Snapshot.ofJson? (value : Json) : Option Snapshot := do
  let [id, title, workspace, phase, usage, agentId, messages] ← value.fields?
    ["id", "title", "workspace", "phase", "usage", "agent_id", "messages"] | none
  return {
    task := {
      id := ← Json.required Json.asText? id
      title := ← Json.textField title
      workspace := ← Json.textField workspace
      phase := ← Json.orElse .awaiting Phase.ofJson? phase
      usage := ← Json.orElse {} Usage.ofJson? usage
      agentId := ← Json.nullable Json.asText? agentId }
    messages := ← Json.orElse [] (Json.listOf (Message.ofJson? 3)) messages }

end TaskConsole
