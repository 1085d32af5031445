import TaskConsole.Json.Basic
import TaskConsole.Number.Hex

/-!
# Writing JSON

`Json.quote` writes a text as a JSON text: the quote, the backslash and the control
characters are escaped and all else stands for itself.  `Json.compact` writes a value
without blanks.  `ofFields` is the object of some text fields, sorted by name.
-/

namespace TaskConsole.Json

/-- A character inside a JSON text. -/
def escape (c : Char) : List Char :=
  if c = '"' then ['\\', '"']
  else if c = '\\' then ['\\', '\\']
  else if c = '\n' then ['\\', 'n']
  else if c = '\r' then ['\\', 'r']
  else if c = '\t' then ['\\', 't']
  else if c.toNat = 8 then ['\\', 'b']
  else if c.toNat = 12 then ['\\', 'f']
  else if c.toNat < 0x20 then
    ['\\', 'u', '0', '0', Number.hexDigit (c.toNat / 16), Number.hexDigit (c.toNat % 16)]
  else [c]

/-- A text as a JSON text. -/
def quote (text : String) : String :=
  String.ofList ('"' :: text.toList.flatMap escape ++ ['"'])

/-- An object of text fields, sorted by their names. -/
def ofFields (fields : List (String × String)) : Json :=
  .object ((fields.mergeSort fun a b => a.1 ≤ b.1).map fun f => (some f.1, ofText f.2))

mutual

/-- A value without blanks; a number is written if it is an integer. -/
def compact : Json → String
  | .null => "null"
  | .bool b => if b then "true" else "false"
  | .number (some (.integer i)) => toString i
  | .number _ => "null"
  | .text (some s) => quote s
  | .text none => "null"
  | .array items => "[" ++ compactItems items ++ "]"
  | .object members => "\x7b" ++ compactMembers members ++ "\x7d"

/-- The items of an array with commas between them. -/
def compactItems : List Json → String
  | [] => ""
  | [item] => compact item
  | item :: rest => compact item ++ "," ++ compactItems rest

/-- The members of an object with commas between them. -/
def compactMembers : List (Option String × Json) → String
  | [] => ""
  | [(name, value)] => quote (name.getD "") ++ ":" ++ compact value
  | (name, value) :: rest =>
    quote (name.getD "") ++ ":" ++ compact value ++ "," ++ compactMembers rest

end

end TaskConsole.Json
