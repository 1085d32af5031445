import TaskConsole.Markdown.Opening

/-!
# Blocks

`Block.parse` reads a document block by block.  Between two blocks some containers are
open, one inside the other (`Frame`): quotes, lists and their items, with the document
around them.  A line first goes into those of them that it continues (`enter`), then may
open new ones, and what is left of it begins a block: a paragraph, a heading, a rule or
code.  A paragraph (`paragraphText`) also takes a line that continues no container,
unless something else begins there; code (`fencedLines`, `indentedLines`) does not.
A list is tight if no blank line stands before one of its items or of their blocks.
-/

namespace TaskConsole.Markdown

/-- An open container with what it holds so far, the last one first: blocks, or the
items of a list. -/
inductive Frame where
  | document (blocks : List Block)
  | quote (blocks : List Block)
  | list (marker : Marker) (tight : Bool) (items : List (List Block))
  /-- An item whose blocks are indented by so many columns. -/
  | item (padding : Nat) (blocks : List Block)

/-- The state between two blocks: the open containers, the innermost first, whether a
blank line stands before what comes next, whether the innermost item has an empty first
line and nothing else, and the definitions so far. -/
structure State where
  frames : List Frame := [.document []]
  afterBlank : Bool := false
  bare : Bool := false
  defined : Definitions := []

/-- A container with one more block. -/
def Frame.add (b : Block) : Frame → Frame
  | .document blocks => .document (b :: blocks)
  | .quote blocks => .quote (b :: blocks)
  | .list marker tight items => .list marker tight ([b] :: items)
  | .item padding blocks => .item padding (b :: blocks)

/-- The blocks of a container. -/
def Frame.blocks : Frame → List Block
  | .document blocks => blocks.reverse
  | .quote blocks => blocks.reverse
  | .list marker tight items => [.list marker.number tight items.reverse]
  | .item _ blocks => blocks.reverse

/-- Where a line goes on behind a container, if it continues it. -/
def Frame.enter? (c : Cursor) : Frame → Option Cursor
  | .document _ => some c
  | .list .. => some c
  | .quote _ =>
    let c := c.advance 3
    if c.rest.head? = some '>' then some ((c.pass 1).advance 1) else none
  | .item padding _ =>
    let (missing, inner) := c.skip padding
    if missing = 0 || atBreak inner.rest then some inner else none

/-- Goes into containers, the outermost first, as far as a line continues them: how many
these are, and where the line goes on. -/
def enter : List Frame → Cursor → Nat × Cursor
  | [], c => (0, c)
  | f :: inner, c =>
    match f.enter? c with
    | none => (0, c)
    | some c =>
      let (count, c) := enter inner c
      (count + 1, c)

namespace State

/-- Adds a block to the innermost container. -/
def add (s : State) (b : Block) : State :=
  match s.frames with
  | f :: outer => { s with frames := f.add b :: outer }
  | [] => s

/-- Closes the innermost container. -/
def closeFrame (s : State) : State :=
  match s.frames with
  | .quote blocks :: outer => { s with frames := outer }.add (.quote blocks.reverse)
  | .item _ blocks :: .list marker tight items :: outer =>
    { s with frames := .list marker tight (blocks.reverse :: items) :: outer }
  | .list marker tight items :: outer =>
    { s with frames := outer, bare := s.bare && !tight }.add
      (.list marker.number tight items.reverse)
  | _ => s

/-- Closes the innermost containers, as many as given. -/
def closeFrames (s : State) : (count : Nat) → State
  | 0 => s
  | count + 1 => s.closeFrame.closeFrames count

/-- Closes an item that has an empty first line and a blank line after it. -/
def closeBare (s : State) : State :=
  let closed := match s.frames with
    | .item .. :: _ => if s.bare && s.afterBlank then s.closeFrame else s
    | _ => s
  { closed with bare := false }

/-- Makes the list around the innermost container loose if a blank line stands
before. -/
def loosen (s : State) : State :=
  let frames := match s.frames with
    | f :: .list marker tight items :: outer =>
      f :: .list marker (tight && !s.afterBlank) items :: outer
    | frames => frames
  { s with frames := frames, afterBlank := false }

/-- Prepares for a block that is no item: a list that goes on only with items is
closed. -/
def beginBlock (s : State) : State :=
  let s := s.closeBare
  let s := match s.frames with
    | .list .. :: _ => s.closeFrame
    | _ => s
  s.loosen

/-- Opens a list for an item with a marker, unless it belongs to the open one. -/
def beginItem (s : State) (marker : Marker) : State :=
  let s := s.closeBare
  match s.frames with
  | .list first tight items :: outer =>
    if first.sign = marker.sign then
      { s with frames := .list first (tight && !s.afterBlank) items :: outer, afterBlank := false }
    else
      let s := s.beginBlock
      { s with frames := .list marker true [] :: s.frames }
  | _ =>
    let s := s.beginBlock
    { s with frames := .list marker true [] :: s.frames }

/-- Opens a container. -/
def push (s : State) (f : Frame) : State := { s with frames := f :: s.frames }

/-- Notes a blank line.  It is nothing to a quote; behind an empty first line it leaves
an item that takes no block. -/
def blankLine (s : State) : State :=
  match s.frames with
  | .quote _ :: _ => s
  | .item padding blocks :: outer =>
    if s.bare then { s with frames := .item 0 blocks :: outer, afterBlank := true }
    else { s with frames := .item padding blocks :: outer, afterBlank := true }
  | _ => { s with afterBlank := true }

end State

/-- How a line goes on behind the containers that it opens: it is used up, a task begins
with a box and a text, or the rest begins a block. -/
inductive Opened where
  | used (s : State) (rest : List Char)
  | task (s : State) (ticked : Bool) (rest : List Char)
  | left (s : State) (c : Cursor)

/-- Opens the containers that begin at a cursor.  The fuel bounds their number. -/
def openContainers : (fuel : Nat) → State → Cursor → Opened
  | 0, s, c => .left s c
  | fuel + 1, s, c =>
    let (missing, inner) := c.skip 4
    if missing = 0 then .left s c
    else match item? (4 - missing) inner with
      | some (marker, padding, content) =>
        let s := (s.beginItem marker).push (.item padding [])
        match afterBlankLine? content.rest with
        | some rest => .used { s with bare := true } rest
        | none =>
          match taskBox? content with
          | none => openContainers fuel s content
          | some (ticked, behind) =>
            match afterBlankLine? behind with
            | some rest => .used { s.add (.box ticked) with bare := true } rest
            | none => .task s ticked (behind.dropWhile isIndent)
      | none =>
        if inner.rest.head? = some '>' then
          openContainers fuel (s.beginBlock.push (.quote [])) ((inner.pass 1).advance 1)
        else .left s c

/-- What a paragraph turns out to be, from its text and the underline that may end
it. -/
structure Paragraph where
  text : List Char
  level : Option Nat
  rest : List Char

/-- Whether nothing but definitions stands in the text of a paragraph. -/
def holdsText (cs : List Char) : Bool := !(definitions [] cs.length cs).2.all isGapOrBreak

/-- Reads the text of a paragraph in containers, the outermost first, from where its
first line begins.  The lines keep the indentation and the kind of break that they have;
a carriage return alone counts as a line feed.  The fuel bounds the number of lines. -/
def paragraphText (containers : List Frame) (task : Bool) :
    (fuel : Nat) → (read : List Char) → List Char → Paragraph
  | 0, read, cs => ⟨read.reverse, none, cs⟩
  | fuel + 1, read, cs =>
    let read := (lineOf cs).reverse ++ read
    let next := afterLine cs
    let (count, c) := enter containers { rest := next }
    let inContainers := count = containers.length
    let (missing, inner) := c.skip 4
    let underline := if 0 < missing && inContainers then
        (underline? inner.rest).filter fun _ => task || holdsText read.reverse
      else none
    match underline with
    | some (level, rest) => ⟨read.reverse, some level, rest⟩
    | none =>
      if 0 < missing && interrupts inContainers inner.rest
          || atBreak (c.rest.dropWhile isIndent) then
        ⟨read.reverse, none, next⟩
      else
        let ending := match cs.dropWhile fun c => !isBreak c with
          | '\r' :: '\n' :: _ => ['\n', '\r']
          | _ => ['\n']
        let indentation := c.rest.takeWhile isIndent
        paragraphText containers task fuel (indentation.reverse ++ ending ++ read)
          (c.rest.dropWhile isIndent)

/-- A line of code as it is shown, from the columns that are left before it and its
characters up to a line feed or the end of the text.  A carriage return before a line
feed does not count, nor one before the last character of the text. -/
def codeLine (c : Cursor) (line : List Char) (atEnd : Bool) : String :=
  let shown := match atEnd, line.reverse with
    | false, '\r' :: before => before.reverse
    | true, last :: '\r' :: before => if last.toNat < 0x80 then (last :: before).reverse else line
    | _, _ => line
  String.ofList (List.replicate c.pending ' ' ++ shown)

/-- The characters up to a line feed, whether there is none, and what follows it. -/
def cutAtLineFeed (cs : List Char) : List Char × Bool × List Char :=
  let line := cs.takeWhile fun c => c != '\n'
  (line, line.length = cs.length, cs.drop (line.length + 1))

/-- Reads the lines of fenced code in containers, the outermost first: the lines, the
last one first, and what follows the code.  The fuel bounds their number. -/
def fencedLines (containers : List Frame) (mark : Char) (length indent : Nat) :
    (fuel : Nat) → (read : List String) → List Char → List String × List Char
  | 0, read, cs => (read, cs)
  | fuel + 1, read, cs =>
    let (count, c) := enter containers { rest := cs }
    if count < containers.length then (read, cs)
    else
      let c := c.advance indent
      let (missing, inner) := c.skip (4 - indent)
      match if 0 < missing then closeFence? mark length inner.rest else none with
      | some rest => (read, rest)
      | none =>
        let (line, atEnd, rest) := cutAtLineFeed c.rest
        fencedLines containers mark length indent fuel (codeLine c line atEnd :: read) rest

/-- Reads the lines of indented code in containers, the outermost first, from where the
first one begins: the lines, the last one first, each with whether it is blank, and what
follows the code.  The fuel bounds their number. -/
def indentedLines (containers : List Frame) :
    (fuel : Nat) → (read : List (String × Bool)) → Cursor → List (String × Bool) × List Char
  | 0, read, c => (read, c.rest)
  | fuel + 1, read, c =>
    let (line, atEnd, next) := cutAtLineFeed c.rest
    let read := (codeLine c line atEnd, (afterBlankLine? c.rest).isSome) :: read
    if next.isEmpty then (read, next)
    else
      let (count, c) := enter containers { rest := next }
      let (missing, inner) := c.skip 4
      if count < containers.length || 0 < missing && !atBreak inner.rest then (read, next)
      else indentedLines containers fuel read inner

namespace State

/-- Reads a paragraph, which may belong to a task, and what follows it.  Definitions at
its front do not show. -/
def readParagraph (s : State) (task : Option Bool) (cs : List Char) : State × List Char :=
  let p := paragraphText s.frames.reverse task.isSome (cs.length + 1) [] cs
  let (found, text) := if task.isSome then ([], p.text) else definitions [] p.text.length p.text
  let s := { s with defined := s.defined ++ found }
  if text.all isGapOrBreak && task.isNone then (s, p.rest)
  else
    let text := dropEnd isGap (text.dropWhile isIndent)
    match p.level with
    | some level => (s.add (.heading task level text), p.rest)
    | none => (s.add (.paragraph task text), p.rest)

/-- Reads the block that begins at a cursor, and what follows it. -/
def readBlock (s : State) (c : Cursor) : State × List Char :=
  let s := s.beginBlock
  let (missing, inner) := c.skip 4
  let cs := inner.rest
  if missing = 0 then
    let (lines, rest) := indentedLines s.frames.reverse (cs.length + 1) [] inner
    let shown := (lines.dropWhile fun line => line.2).reverse.map fun line => line.1
    let afterBlank := lines.head?.any fun line => line.2
    ({ s with afterBlank := afterBlank }.add (.code "" shown), rest)
  else if isRule cs then (s.add .rule, afterLine cs)
  else match heading? cs with
    | some (level, text) => (s.add (.heading none level text), afterLine cs)
    | none =>
      match fence? cs with
      | some (mark, length, info, behind) =>
        let (lines, rest) := fencedLines s.frames.reverse mark length (4 - missing)
          (cs.length + 1) [] behind
        (s.add (.code info lines.reverse), rest)
      | none => s.readParagraph none cs

/-- Reads from the front of a line what comes next, a block or a blank line, and what
follows it. -/
def readNext (s : State) (cs : List Char) : State × List Char :=
  let (count, c) := enter s.frames.reverse { rest := cs }
  let s := s.closeFrames (s.frames.length - count)
  match openContainers (cs.length + 1) s c with
  | .used s rest => (s, rest)
  | .task s ticked rest => s.readParagraph (some ticked) rest
  | .left s c =>
    match afterBlankLine? c.rest with
    | some rest => (s.blankLine, rest)
    | none => s.readBlock c

/-- Reads the blocks of a text.  The fuel bounds the number of lines. -/
def readAll : (fuel : Nat) → State → List Char → State
  | 0, s, _ => s
  | _, s, [] => s
  | fuel + 1, s, cs =>
    let (s, rest) := s.readNext cs
    readAll fuel s rest

end State

/-- The blocks of a document and the labels that it defines. -/
def Block.parse (text : String) : List Block × Definitions :=
  let cs := text.toList
  let s := State.readAll (cs.length + 1) {} cs
  let s := s.closeFrames s.frames.length
  (s.frames.flatMap Frame.blocks, s.defined)

end TaskConsole.Markdown
