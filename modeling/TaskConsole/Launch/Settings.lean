import TaskConsole.Text.Blank
import TaskConsole.Text.Utf8
import TaskConsole.Theme
import TaskConsole.Toml.Reader

/-!
# Settings

`Settings` are what the user can set in a file: the service, how long to wait for it,
where logs go, and the colours.  `Settings.ofFile` reads them; a file that is not there
says nothing, and what it does not say keeps its default.  `Settings.withServer` lets
the environment and the command line decide on the service.
-/

namespace TaskConsole

/-- What the user can set. -/
structure Settings where
  server : String := "http://127.0.0.1:4096"
  patience : Nat := 30
  logDirectory : Option String := none
  theme : Theme := {}
deriving DecidableEq, Inhabited

/-- What is found where a file should be. -/
inductive FileContent where
  | missing
  /-- There is something that cannot be read. -/
  | barred
  | bytes (content : List UInt8)

/-- Why the settings of a file do not count. -/
inductive SettingsFault where
  | unreadable | malformed
deriving DecidableEq, Inhabited

/-- A path below a directory. -/
def below (directory path : String) : String :=
  if directory.toList.getLast? = some '/' then directory ++ path else directory ++ "/" ++ path

namespace Settings

/-- The fields of a record: the values of its names in a table, or those at the front of
an array; a moment says nothing. -/
def fields? (names : List String) : Toml → Option (List (Option Toml))
  | .table _ members => some (names.map fun name => Toml.find? name members)
  | .array _ items =>
    some ((items.map some ++ List.replicate names.length none).take names.length)
  | .moment _ => some (names.map fun _ => none)
  | .text _ => none
  | .integer _ => none
  | .float _ => none
  | .boolean _ => none

/-- The part of a colour that a value tells. -/
def shade? : Option Toml → Option UInt8
  | some (.integer i) => if 0 ≤ i && i < 256 then some (UInt8.ofNat i.toNat) else none
  | _ => none

/-- The colour that a value tells. -/
def color? (value : Toml) : Option Color := do
  let [r, g, b] ← fields? ["r", "g", "b"] value | none
  return .rgb (← shade? r) (← shade? g) (← shade? b)

/-- The colour of a field, or the one it has otherwise. -/
def colorField? (otherwise : Color) : Option Toml → Option Color
  | none => some otherwise
  | some value => color? value

/-- The theme that a value tells. -/
def theme? (value : Toml) : Option Theme := do
  let [headerBg, feedBg, inputBg, textFg, mutedFg, accentFg, userFg, toolFg, errorFg] ←
    fields? ["header_bg", "feed_bg", "input_bg", "text_fg", "muted_fg", "accent_fg", "user_fg",
      "tool_fg", "error_fg"] value | none
  let usual : Theme := {}
  return {
    headerBg := ← colorField? usual.headerBg headerBg
    feedBg := ← colorField? usual.feedBg feedBg
    inputBg := ← colorField? usual.inputBg inputBg
    textFg := ← colorField? usual.textFg textFg
    mutedFg := ← colorField? usual.mutedFg mutedFg
    accentFg := ← colorField? usual.accentFg accentFg
    userFg := ← colorField? usual.userFg userFg
    toolFg := ← colorField? usual.toolFg toolFg
    errorFg := ← colorField? usual.errorFg errorFg }

/-- The text that a value is. -/
def text? : Toml → Option String
  | .text s => some s
  | _ => none

/-- The natural number that a value is. -/
def natural? : Toml → Option Nat
  | .integer (.ofNat n) => some n
  | _ => none

/-- The value of a field, or what it is otherwise. -/
def field? {α : Type} (members : List (String × Toml)) (name : String) (otherwise : α)
    (read : Toml → Option α) : Option α :=
  match Toml.find? name members with
  | none => some otherwise
  | some value => read value

/-- The settings that the members of a text tell. -/
def ofMembers? (members : List (String × Toml)) : Option Settings := do
  let usual : Settings := {}
  return {
    server := ← field? members "server_url" usual.server text?
    patience := ← field? members "request_timeout_secs" usual.patience natural?
    logDirectory := ← field? members "log_dir" none fun v => (text? v).map some
    theme := ← field? members "theme" usual.theme theme? }

/-- The settings of a file. -/
def ofFile : FileContent → Except SettingsFault Settings
  | .missing => .ok {}
  | .barred => .error .unreadable
  | .bytes content =>
    match Utf8.decode? content with
    | none => .error .unreadable
    | some text =>
      match (Toml.read? text).bind ofMembers? with
      | none => .error .malformed
      | some settings => .ok settings

/-- The number of seconds to wait for the service, one at least. -/
def timeout (s : Settings) : Nat := max s.patience 1

/-- The settings with the service that the command line names, or the environment if it
names one, without the blanks around it. -/
def withServer (s : Settings) (environment flag : Option String) : Settings :=
  match flag <|> environment.filter fun text => !Text.isBlankText text with
  | some server => { s with server := Text.trim server }
  | none => s

/-- The file of the settings of a user. -/
def defaultFile (home : String) : String := below home ".config/taskdeck/config.toml"

/-- The directory of the logs of a user, unless the settings name another one. -/
def logPath (s : Settings) (home : Option String) : String :=
  s.logDirectory.getD <|
    match home with
    | some home => below home ".local/share/taskdeck/logs"
    | none => "logs"

end Settings

end TaskConsole
