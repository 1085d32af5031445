/-!
# TOML values

A `Toml` is what a TOML text says.  A table remembers how it was made, because that
decides who may add to it: `Toml.assign` puts a value at a key with dots, and
`Toml.openTable` and `Toml.openElement` begin a table by its header.  None of them
changes a value that is there already.
-/

namespace TaskConsole

/-- How a table was made. -/
inductive Making where
  /-- By a header of its own. -/
  | headed
  /-- By the header of a table within it. -/
  | implied
  /-- By a key with dots. -/
  | dotted
  /-- As a value, to which nothing can be added. -/
  | closed
deriving DecidableEq, Inhabited

/-- What a TOML text says. -/
inductive Toml where
  | text (s : String)
  | integer (i : Int)
  /-- A float, as it is written. -/
  | float (written : List Char)
  | boolean (b : Bool)
  /-- A date, a time or both, as it is written. -/
  | moment (written : List Char)
  /-- An array; one that grows by headers holds tables only. -/
  | array (growing : Bool) (items : List Toml)
  | table (making : Making) (members : List (String × Toml))
deriving Inhabited

namespace Toml

/-- The value of a key among members. -/
def find? (key : String) (members : List (String × Toml)) : Option Toml :=
  members.lookup key

/-- The members with another value for a key that is among them. -/
def replace (key : String) (value : Toml) (members : List (String × Toml)) :
    List (String × Toml) :=
  members.map fun m => if m.1 = key then (key, value) else m

/-- A change of a table, which may be refused. -/
abbrev Change := Making → List (String × Toml) → Option (Making × List (String × Toml))

/-- Changes the table at the end of a path.  Tables that are missing on the way are
made as the flag says: by a key with dots, or by a header.  A key with dots does not go
through a table that has a header of its own, and nothing goes through a value. -/
def updateAt (byKey : Bool) (change : Change) : List String → Change
  | [], making, members => change making members
  | key :: path, making, members => do
    match find? key members with
    | none =>
      let (m, ms) ← updateAt byKey change path (if byKey then .dotted else .implied) []
      return (making, members ++ [(key, .table m ms)])
    | some (.table m ms) =>
      if m = .closed || (byKey && m = .headed) then none
      else
        let (m, ms) ← updateAt byKey change path m ms
        return (making, replace key (.table m ms) members)
    | some (.array true items) =>
      match items.getLast? with
      | some (.table m ms) =>
        let (m, ms) ← updateAt byKey change path m ms
        return (making, replace key (.array true (items.dropLast ++ [.table m ms])) members)
      | _ => none
    | some _ => none

/-- Puts a value at a new key. -/
def insertNew (key : String) (value : Toml) (direct : Bool) : Change :=
  fun making members =>
    if (making = .dotted) == direct || (find? key members).isSome then none
    else some (making, members ++ [(key, value)])

/-- Puts a value at a key with dots, given by the path in front of its last part. -/
def assign (path : List String) (key : String) (value : Toml) : Change :=
  updateAt true (insertNew key value path.isEmpty) path

/-- Begins a table by its header: it is new, or only headers of tables within it have
been seen. -/
def openTable (path : List String) (key : String) : Change :=
  updateAt false (fun making members =>
    match find? key members with
    | none => some (making, members ++ [(key, .table .headed [])])
    | some (.table .implied ms) => some (making, replace key (.table .headed ms) members)
    | some _ => none) path

/-- Begins a further table of an array by its header. -/
def openElement (path : List String) (key : String) : Change :=
  updateAt false (fun making members =>
    match find? key members with
    | none => some (making, members ++ [(key, .array true [.table .headed []])])
    | some (.array true items) =>
      some (making, replace key (.array true (items ++ [.table .headed []])) members)
    | some _ => none) path

end Toml

end TaskConsole
