import TaskConsole.Number.Count

/-!
# JSON values

A `Json` is what a JSON text says.  It keeps apart what most readers throw away: a
text with an unpaired surrogate, a number beyond the range of floats and a member
that is written twice are all kept, because a part of a text that nobody asks for may
hold any of them.  `Json.keep?` turns a value into one that can be handed on: it has
none of these, and its nesting is bounded.
-/

namespace TaskConsole

/-- A number: an integer of 64 bits, with or without sign, or a float. -/
inductive Numeral where
  | integer (i : Int)
  | real (x : Float)
deriving Inhabited

/-- What a JSON text says. -/
inductive Json where
  | null
  | bool (b : Bool)
  /-- A number, or `none` if it is beyond the range of floats. -/
  | number (n : Option Numeral)
  /-- A text, or `none` if it holds an unpaired surrogate. -/
  | text (s : Option String)
  | array (items : List Json)
  /-- The members in the order of the text, with repetitions. -/
  | object (members : List (Option String × Json))
deriving Inhabited

namespace Json

/-- The JSON value of a text. -/
def ofText (s : String) : Json := .text (some s)

/-- The text that a value is. -/
def asText? : Json → Option String
  | .text s => s
  | _ => none

/-- The items of an array. -/
def asArray? : Json → Option (List Json)
  | .array items => some items
  | _ => none

/-- The integer that a value is. -/
def asInt? : Json → Option Int
  | .number (some (.integer i)) => some i
  | _ => none

/-- The count that a value is. -/
def asCount? : Json → Option Count
  | .number (some (.integer (.ofNat n))) => Count.ofNat? n
  | _ => none

/-- The float that a value is, or the one nearest to the integer it is. -/
def asFloat? : Json → Option Float
  | .number (some (.integer i)) => some (Float.ofInt i)
  | .number (some (.real x)) => some x
  | _ => none

/-- The last member of a name. -/
def last? (name : String) : List (String × Json) → Option Json
  | [] => none
  | member :: rest => last? name rest <|> if member.1 = name then some member.2 else none

/-- The members of an object whose names are proper texts; `none` if one is not. -/
def properMembers? (members : List (Option String × Json)) : Option (List (String × Json)) :=
  members.mapM fun member => member.1.map fun name => (name, member.2)

/-- The value of a member; of a name that is repeated the last one counts. -/
def member? (name : String) : Json → Option Json
  | .object members => (members.filterMap fun m => m.1.map fun n => (n, m.2)) |> last? name
  | _ => none

mutual

/-- The value with each member once, the last of its name, provided every text in it
is proper, every number is in range, and arrays and objects nest at most `room`
deep. -/
def keep? (room : Nat) : Json → Option Json
  | .null => some .null
  | .bool b => some (.bool b)
  | .number n => n.map fun x => .number (some x)
  | .text s => s.map ofText
  | .array items => match room with
    | 0 => none
    | room + 1 => (keepItems? room items).map .array
  | .object members => match room with
    | 0 => none
    | room + 1 => (keepMembers? room members).map .object

/-- The items of an array, each to be handed on. -/
def keepItems? (room : Nat) : List Json → Option (List Json)
  | [] => some []
  | item :: rest => do
    let kept ← keep? room item
    let others ← keepItems? room rest
    return kept :: others

/-- The members of an object, each to be handed on; one that is repeated later is
left out. -/
def keepMembers? (room : Nat) : List (Option String × Json) →
    Option (List (Option String × Json))
  | [] => some []
  | (name, value) :: rest => do
    let name ← name
    let kept ← keep? room value
    let others ← keepMembers? room rest
    return if others.any fun m => m.1 == some name then others else (some name, kept) :: others

end

end Json

end TaskConsole
