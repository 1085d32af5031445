import TaskConsole.Markdown.Cursor
import TaskConsole.Markdown.Link

/-!
# What begins a block

The readers of what stands at the front of a line that begins a block: a rule
(`isRule`), a heading (`heading?`), a fence of code (`fence?`), the marker of an item
(`marker?`, `item?`) and the box of a task (`taskBox?`); with the line under a paragraph
that makes a heading of it (`underline?`) and the fence that ends code (`closeFence?`).
`interrupts` says whether a line ends the paragraph before it.
-/

namespace TaskConsole.Markdown

/-- Whether a line is a rule: three or more of one sign, with blanks between. -/
def isRule (cs : List Char) : Bool :=
  match lineOf cs with
  | c :: rest =>
    (c = '*' || c = '-' || c = '_') && 2 ≤ (rest.filter fun d => d = c).length
      && rest.all fun d => d = c || isIndent d
  | [] => false

/-- The characters without the ones of a kind at their back. -/
def dropEnd (p : Char → Bool) (cs : List Char) : List Char := (cs.reverse.dropWhile p).reverse

/-- The text of a heading without the signs that close it, which stand behind a space
or alone. -/
def headingText (cs : List Char) : List Char :=
  let text := dropEnd (fun c => c = ' ') (cs.dropWhile isGap)
  let body := dropEnd (fun c => c = '#') text
  if body.isEmpty then []
  else if body.getLast? = some ' ' then dropEnd (fun c => c = ' ') body
  else text

/-- The level and the text of a heading that begins with signs. -/
def heading? (cs : List Char) : Option (Nat × List Char) :=
  let level := (cs.takeWhile fun c => c = '#').length
  let rest := cs.drop level
  if 1 ≤ level && level ≤ 6 && rest.head?.all isGapOrBreak then
    some (level, headingText (lineOf rest))
  else none

/-- The mark, its length and the information of a fence that opens a block of code, and
what follows its line, which only a line feed ends. -/
def fence? (cs : List Char) : Option (Char × Nat × String × List Char) :=
  match cs with
  | c :: _ =>
    let length := (cs.takeWhile fun d => d = c).length
    let line := (cs.drop length).takeWhile fun d => d != '\n'
    if (c = '\x60' || c = '~') && 3 ≤ length && (c = '~' || !line.contains '\x60') then
      let info := dropEnd isGapOrBreak (line.dropWhile isGap)
      some (c, length, unescape (info.filter fun d => d != '\r'),
        cs.drop (length + line.length + 1))
    else none
  | [] => none

/-- What follows a fence that closes a block of code; the end of the text closes it
too. -/
def closeFence? (mark : Char) (length : Nat) (cs : List Char) : Option (List Char) :=
  if cs.isEmpty then some []
  else if length ≤ (cs.takeWhile fun c => c = mark).length then
    afterBreak? ((cs.dropWhile fun c => c = mark).dropWhile fun c => c = ' ')
  else none

/-- The level of a heading that a line under a paragraph makes of it, and what follows
the line. -/
def underline? (cs : List Char) : Option (Nat × List Char) :=
  match cs with
  | c :: _ =>
    if c = '=' || c = '-' then
      (afterBlankLine? (cs.dropWhile fun d => d = c)).map fun rest =>
        (if c = '=' then 1 else 2, rest)
    else none
  | [] => none

/-- What marks the items of a list: a sign, or a number with a sign. -/
structure Marker where
  sign : Char
  number : Option Nat
deriving DecidableEq

/-- The marker of an item and the number of its characters; a blank or the end of the
line follows it. -/
def marker? (cs : List Char) : Option (Marker × Nat) :=
  let digits := cs.takeWhile Char.isDigit
  let bounded (m : Marker) (size : Nat) (rest : List Char) : Option (Marker × Nat) :=
    if rest.head?.all fun c => isIndent c || isBreak c then some (m, size) else none
  match cs.drop digits.length with
  | c :: rest =>
    if digits.isEmpty then
      if c = '-' || c = '+' || c = '*' then bounded ⟨c, none⟩ 1 rest else none
    else if digits.length ≤ 9 && (c = '.' || c = ')') then
      bounded ⟨c, some (digits.foldl (fun n c => n * 10 + (c.toNat - '0'.toNat)) 0)⟩
        (digits.length + 1) rest
    else none
  | [] => none

/-- An item that begins at a cursor whose line is indented by so many columns: its
marker, the columns by which its blocks are indented, and where they begin. -/
def item? (indent : Nat) (c : Cursor) : Option (Marker × Nat × Cursor) := do
  if isRule c.rest then none
  else
    let (marker, size) ← marker? c.rest
    let after := (c.pass size).advance 1
    let width := indent + size + 1
    if (afterBlankLine? after.rest).isSome then return (marker, width, after)
    else
      let (missing, inner) := after.skip 4
      if missing = 0 then return (marker, width, after)
      else return (marker, width + (4 - missing), inner)

/-- The box at the front of an item of tasks, and what follows it. -/
def taskBox? (c : Cursor) : Option (Bool × List Char) :=
  match (c.advance 3).rest with
  | '[' :: mark :: ']' :: next :: rest =>
    if isGapOrBreak next then
      if isGap mark then some (false, next :: rest)
      else if mark = 'x' || mark = 'X' then some (true, next :: rest)
      else none
    else none
  | _ => none

/-- Whether a line, of which the indentation is gone, ends the paragraph before it.
Where all containers of the paragraph go on, only an item with a text ends it, and with
a number only the number one. -/
def interrupts (inContainers : Bool) (cs : List Char) : Bool :=
  atBreak cs || isRule cs || (heading? cs).isSome || (fence? cs).isSome || cs.head? = some '>'
    || match marker? cs with
      | some (marker, size) =>
        !inContainers
          || marker.number.all (fun n => n = 1) && (afterBlankLine? (cs.drop size)).isNone
      | none => false

end TaskConsole.Markdown
