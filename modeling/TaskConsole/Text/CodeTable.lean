import TaskConsole.Text.Blank
import TaskConsole.Number.Hex

/-!
# Tables of characters

A large table of characters is kept as a text of words, with all numbers in hexadecimal.
`runs` reads a table whose words are runs of characters, such as `300-314=e6`: the first
and the last character, and a number that belongs to the run.  `entries` reads a table in
which each word holds the characters that belong to one character, such as `c0=41+300`; a
word without the name of its character belongs to the one behind that of the word before.
-/

namespace TaskConsole.Text.CodeTable

/-- The number that hexadecimal digits name; what is no digit counts as nothing. -/
def hexNumber (digits : List Char) : Nat :=
  digits.foldl (fun n c => n * 16 + (Number.hexValue? c).getD 0) 0

/-- What stands in front of the first mark of a kind, and what stands behind it. -/
def cutAtMark (mark : Char) (cs : List Char) : List Char × List Char :=
  (cs.takeWhile (· != mark), (cs.dropWhile (· != mark)).drop 1)

/-- Every so many characters from a first to a last one, with a number that belongs to
them. -/
structure Run where
  first : Nat
  last : Nat
  step : Nat
  value : Nat
deriving DecidableEq

/-- The run that a word names: `first-last/step=value`, where the last character is the
first, the step one and the value zero for want of a word about them. -/
def Run.ofWord (word : List Char) : Run :=
  let (place, value) := cutAtMark '=' word
  let (ends, step) := cutAtMark '/' place
  let (first, last) := cutAtMark '-' ends
  { first := hexNumber first
    last := hexNumber (if last.isEmpty then first else last)
    step := max 1 (hexNumber step)
    value := hexNumber value }

/-- The runs of a table. -/
def runs (table : String) : List Run := (words table).map fun word => Run.ofWord word.toList

/-- Whether a code belongs to a run. -/
def Run.holds (r : Run) (code : Nat) : Bool :=
  r.first ≤ code && code ≤ r.last && (code - r.first) % r.step = 0

/-- Whether a character belongs to one of the runs. -/
def isIn (table : List Run) (c : Char) : Bool := table.any fun r => r.holds c.toNat

/-- The run that a character belongs to. -/
def runOf? (table : List Run) (c : Char) : Option Run := table.find? fun r => r.holds c.toNat

/-- The codes of a word with plus signs between them. -/
def codesOf (word : List Char) : List Nat :=
  ((word.splitBy fun a b => (a = '+') == (b = '+')).filter (·.head? != some '+')).map hexNumber

/-- The entries so far, the last one first, with that of a further word. -/
def addEntry (entries : List (Nat × List Nat)) (word : String) : List (Nat × List Nat) :=
  let cs := word.toList
  if '=' ∈ cs then (hexNumber (cutAtMark '=' cs).1, codesOf (cutAtMark '=' cs).2) :: entries
  else ((entries.head?.map Prod.fst).getD 0 + 1, codesOf cs) :: entries

/-- The entries of a table: codes, each with those that belong to it. -/
def entries (table : String) : List (Nat × List Nat) := ((words table).foldl addEntry []).reverse

/-- What belongs to a character. -/
def entryOf? (table : List (Nat × List Nat)) (c : Char) : Option (List Char) :=
  (table.find? fun e => e.1 = c.toNat).map fun e => e.2.map Char.ofNat

end TaskConsole.Text.CodeTable
