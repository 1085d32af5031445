import TaskConsole.Json.Basic

/-!
# Records in JSON

A record with known fields is written as an object, in which other members are
skipped and no known one is repeated, or as an array of its fields in their order,
in which the last ones may be missing.  `Json.fields?` finds the fields either way,
and `Json.namedFields?` in an object only; `required`, `orElse` and `nullable` say
what a missing one means.  `Json.word?` reads a word, written as a text or as an
object with that word over `null`.
-/

namespace TaskConsole.Json

/-- The value of a name among members, none of which repeats it. -/
def unique? (name : String) (members : List (String × Json)) : Option (Option Json) :=
  match members.filter fun m => m.1 = name with
  | [] => some none
  | [m] => some (some m.2)
  | _ => none

/-- The fields of a record that is written as an object, in the order of their names;
`none` inside where one is missing. -/
def namedFields? (names : List String) : Json → Option (List (Option Json))
  | .object members => do
    let members ← properMembers? members
    names.mapM fun name => unique? name members
  | _ => none

/-- The fields of a record, in the order of their names; `none` inside where one is
missing. -/
def fields? (names : List String) : Json → Option (List (Option Json))
  | .array items =>
    if items.length ≤ names.length then
      some (items.map some ++ List.replicate (names.length - items.length) none)
    else none
  | value => value.namedFields? names

/-- A field that has to be there. -/
def required {α : Type} (read : Json → Option α) (field : Option Json) : Option α :=
  field.bind read

/-- A field with a value of its own when it is missing. -/
def orElse {α : Type} (default : α) (read : Json → Option α) (field : Option Json) : Option α :=
  match field with
  | none => some default
  | some value => read value

/-- A field that may be missing, which `null` says too. -/
def nullable {α : Type} (read : Json → Option α) (field : Option Json) : Option (Option α) :=
  match field with
  | none => some none
  | some .null => some none
  | some value => (read value).map some

/-- A text field that is empty when it is missing. -/
def textField (field : Option Json) : Option String := orElse "" asText? field

/-- A count that is zero when it is missing. -/
def countField (field : Option Json) : Option Count := orElse 0 asCount? field

/-- The items of an array, each read. -/
def listOf {α : Type} (read : Json → Option α) (value : Json) : Option (List α) := do
  (← value.asArray?).mapM read

/-- The word that a value chooses. -/
def word? : Json → Option String
  | .text s => s
  | .object [(name, .null)] => name
  | _ => none

end TaskConsole.Json
