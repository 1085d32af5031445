import TaskConsole.Toml.Basic
import TaskConsole.Toml.Lexeme

/-!
# Reading TOML

`Toml.read?` reads a TOML text line by line: a header opens a table, to which the
lines below it assign values.  A text that repeats a key, or gives a key to a table that
is complete, cannot be read.
-/

namespace TaskConsole.Toml

/-- The characters behind blanks, comments and ends of lines.  The fuel bounds the
number of lines. -/
def skipLines : (fuel : Nat) → List Char → List Char
  | 0, cs => cs
  | fuel + 1, cs =>
    let rest := skipComment (skipGaps cs)
    match lineEnd? rest with
    | some rest => skipLines fuel rest
    | none => rest

/-- The members of a table that is written as a value. -/
def assignAll (members : List ((List String × String) × Toml)) :
    Option (List (String × Toml)) :=
  (members.foldlM (fun (sofar : Making × List (String × Toml)) member =>
    assign member.1.1 member.1.2 member.2 sofar.1 sofar.2) (.closed, [])).map Prod.snd

/-- Reads a value that holds no others. -/
def scalar? (cs : List Char) : Option (Toml × List Char) :=
  let written (rest : List Char) : List Char := cs.take (cs.length - rest.length)
  match cs with
  | 't' :: 'r' :: 'u' :: 'e' :: rest => some (.boolean true, rest)
  | 'f' :: 'a' :: 'l' :: 's' :: 'e' :: rest => some (.boolean false, rest)
  | _ =>
    match text? cs with
    | some (s, rest) => some (.text (String.ofList s), rest)
    | none =>
      match afterMoment? cs with
      | some rest => some (.moment (written rest), rest)
      | none =>
        match afterFloat? cs with
        | some rest => some (.float (written rest), rest)
        | none => (integer? cs).map fun r => (.integer r.1, r.2)

mutual

/-- Reads a value, in which arrays and tables nest at most `room` deep.  The fuel bounds
how many values follow one another; the length of the text is always enough. -/
def value? : (fuel room : Nat) → List Char → Option (Toml × List Char)
  | 0, _, _ => none
  | _ + 1, 0, '[' :: _ => none
  | _ + 1, 0, '\x7b' :: _ => none
  | fuel + 1, room + 1, '[' :: rest =>
    match skipLines rest.length rest with
    | ']' :: rest => some (.array false [], rest)
    | _ => (items? fuel room rest).map fun r => (.array false r.1, r.2)
  | fuel + 1, room + 1, '\x7b' :: rest =>
    match skipGaps rest with
    | '\x7d' :: rest => some (.table .closed [], rest)
    | _ => do
      let (members, rest) ← members? fuel room rest
      return (.table .closed (← assignAll members), rest)
  | _ + 1, _, cs => scalar? cs

/-- Reads the items of an array, of which there is one at least; a comma may follow the
last one. -/
def items? : (fuel room : Nat) → List Char → Option (List Toml × List Char)
  | 0, _, _ => none
  | fuel + 1, room, cs => do
    let (item, rest) ← value? fuel room (skipLines cs.length cs)
    match skipLines rest.length rest with
    | ',' :: rest =>
      match skipLines rest.length rest with
      | ']' :: rest => return ([item], rest)
      | _ =>
        let (items, rest) ← items? fuel room rest
        return (item :: items, rest)
    | ']' :: rest => return ([item], rest)
    | _ => none

/-- Reads the members of a table that is written as a value, of which there is one at
least. -/
def members? : (fuel room : Nat) → List Char →
    Option (List ((List String × String) × Toml) × List Char)
  | 0, _, _ => none
  | fuel + 1, room, cs => do
    let (key, rest) ← key? keyLimit cs
    let (value, rest) ← value? fuel room (skipGaps (← afterMark? '=' rest))
    match skipGaps rest with
    | ',' :: rest =>
      let (members, rest) ← members? fuel room rest
      return ((key, value) :: members, rest)
    | '\x7d' :: rest => return ([(key, value)], rest)
    | _ => none

end

/-- How deep arrays and tables may nest in a value. -/
def nestingLimit : Nat := 79

/-- What has been read: the members of the whole, and the table that the lines assign
to. -/
structure Progress where
  members : List (String × Toml) := []
  place : List String := []

/-- Takes a change of the whole. -/
def Progress.take? (p : Progress) (change : Change) : Option Progress := do
  let (_, members) ← change .headed p.members
  return { p with members := members }

/-- Reads a line that is not empty. -/
def line? (p : Progress) : List Char → Option (Progress × List Char)
  | '[' :: '[' :: cs => do
    let ((path, key), rest) ← key? keyLimit cs
    let rest ← closeLine? (← afterMark? ']' (← afterMark? ']' rest))
    return ({ ← p.take? (openElement path key) with place := path ++ [key] }, rest)
  | '[' :: cs => do
    let ((path, key), rest) ← key? keyLimit cs
    let rest ← closeLine? (← afterMark? ']' rest)
    return ({ ← p.take? (openTable path key) with place := path ++ [key] }, rest)
  | cs => do
    let ((path, key), rest) ← key? keyLimit cs
    let rest := skipGaps (← afterMark? '=' rest)
    let (value, rest) ← value? (rest.length + 1) nestingLimit rest
    let rest ← closeLine? rest
    return (← p.take? (updateAt false (assign path key value) p.place), rest)

/-- Reads lines.  The fuel bounds their number. -/
def lines? : (fuel : Nat) → Progress → List Char → Option Progress
  | 0, _, _ => none
  | fuel + 1, p, cs =>
    match skipLines cs.length cs with
    | [] => some p
    | cs => do
      let (p, rest) ← line? p cs
      lines? fuel p rest

/-- The members that a TOML text says, behind a byte order mark if there is one. -/
def read? (text : String) : Option (List (String × Toml)) :=
  let cs := match text.toList with
    | c :: rest => if c.toNat = 0xFEFF then rest else c :: rest
    | [] => []
  (lines? (cs.length + 1) {} cs).map Progress.members

end TaskConsole.Toml
