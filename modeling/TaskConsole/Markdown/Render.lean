import TaskConsole.Markdown.Inline
import TaskConsole.Markdown.Parser
import TaskConsole.Styled.Trim

/-!
# Showing Markdown

`Markdown.render` shows a document as styled lines.  A `Writer` adds the lines one
after the other.  It keeps whether the last block asks for an empty line after it, how
many quotes it is in, which give each new line their marks and their style, and how
many lists.
-/

namespace TaskConsole.Markdown

/-- How headings are shown, by their level. -/
def headingStyle : Nat → Style
  | 1 => { bg := some .cyan, added := { bold := true, underlined := true } }
  | 2 => { fg := some .cyan, added := { bold := true } }
  | 3 => { fg := some .cyan, added := { bold := true, italic := true } }
  | _ => { fg := some .lightCyan, added := { italic := true } }

/-- How code within a text is shown. -/
def codeStyle : Style := { fg := some .white, bg := some .black }

/-- How links are shown. -/
def linkStyle : Style := { fg := some .blue, added := { underlined := true } }

/-- How quotes are shown. -/
def quoteStyle : Style := .ofFg .green

/-- How the numbers of items are shown. -/
def numberStyle : Style := .ofFg .lightBlue

/-- The lines written so far, the last one first, each with its spans in reverse;
whether the next block begins with an empty line; the number of open quotes and
lists; whether nothing follows the marker of an item yet; and the destination of the
link that was begun last, until it is shown. -/
structure Writer where
  lines : List Line := []
  needsBreak : Bool := false
  quotes : Nat := 0
  lists : Nat := 0
  atMarker : Bool := false
  destination : Option String := none

namespace Writer

/-- Begins a line, with the marks and the style of the quotes around it. -/
def pushLine (w : Writer) (spans : List Span) (style : Style) : Writer :=
  let marks : List Span :=
    if w.quotes = 0 then []
    else List.replicate w.quotes { text := ">" } ++ [{ text := " " }]
  let style := if w.quotes = 0 then style else style.patch quoteStyle
  { w with lines := { spans := (marks ++ spans).reverse, style := style } :: w.lines }

/-- Begins an empty line. -/
def newLine (w : Writer) : Writer := w.pushLine [] {}

/-- Adds a span to the last line. -/
def pushSpan (w : Writer) (span : Span) : Writer :=
  match w.lines with
  | line :: rest => { w with lines := { line with spans := span :: line.spans } :: rest }
  | [] => w.pushLine [span] {}

/-- Writes the empty line that the block before asks for. -/
def breakLine (w : Writer) : Writer := if w.needsBreak then w.newLine else w

/-- Notes that the next block begins with an empty line. -/
def finish (w : Writer) : Writer := { w with needsBreak := true, atMarker := false }

/-- Adds text to the last line, or to a new one right after a block.  A line feed at its
end does not show. -/
def text (w : Writer) (text : String) (style : Style) : Writer :=
  let w := if w.needsBreak then w.newLine else w
  let shown := (Text.lines text).map fun line => ({ text := line, style := style } : Span)
  let w := match shown with
    | [] => w
    | first :: more => more.foldl (fun w span => w.newLine.pushSpan span) (w.pushSpan first)
  { w with needsBreak := false }

/-- Shows the destination of a link at its end.  A link that encloses another one shows
none. -/
def endLink (w : Writer) : Writer :=
  match w.destination with
  | none => w
  | some destination =>
    { ((w.pushSpan { text := " (" }).pushSpan
        { text := destination, style := linkStyle }).pushSpan { text := ")" }
      with destination := none }

/-- Puts the box of a task behind the marker of its item. -/
def taskBox (w : Writer) (ticked : Bool) : Writer :=
  let box := if ticked then "[x] " else "[ ] "
  match w.lines with
  | line :: rest =>
    match line.spans.reverse with
    | [] => w.pushSpan { text := box }
    | first :: more =>
      let spans := if first.text.endsWith "- " then { first with text := first.text ++ box } :: more
        else first :: { text := box } :: more
      { w with lines := { line with spans := spans.reverse } :: rest }
  | [] => w.pushSpan { text := box }

mutual

/-- Writes a piece of running text over a style. -/
def inline (style : Style) (w : Writer) : Inline → Writer
  | .text text => w.text text style
  | .code text => w.pushSpan { text := text, style := codeStyle }
  | .softBreak => w.pushSpan { text := " " }
  | .hardBreak => w.newLine
  | .emphasis content => inlines (style.patch { added := { italic := true } }) w content
  | .strong content => inlines (style.patch { added := { bold := true } }) w content
  | .strikethrough content => inlines (style.patch { added := { crossedOut := true } }) w content
  | .image content => inlines style w content
  | .link destination content =>
    (inlines (style.patch linkStyle) { w with destination := some destination } content).endLink

/-- Writes running text over a style. -/
def inlines (style : Style) (w : Writer) : List Inline → Writer
  | [] => w
  | piece :: rest => inlines style (inline style w piece) rest

end

/-- Begins an item with its marker. -/
def marker (w : Writer) (number : Option Nat) : Writer :=
  let width := w.lists * 4 - 3
  let span : Span := match number with
    | none => { text := String.ofList (List.replicate (width - 1) ' ') ++ "- " }
    | some n =>
      let digits := toString n
      { text := String.ofList (List.replicate (width - digits.length) ' ') ++ digits ++ ". "
        style := numberStyle }
  { w.newLine.pushSpan span with needsBreak := false, atMarker := true }

mutual

/-- Writes a block; the paragraphs of a tight list are no blocks of their own. -/
def block (defined : Definitions) (tight : Bool) (w : Writer) : Block → Writer
  | .paragraph task text =>
    let content := Inline.parse defined text
    let begun := if tight then w
      else
        let w := w.breakLine
        { (if w.atMarker then w else w.newLine) with needsBreak := false }
    let boxed := match task with
      | some ticked => begun.taskBox ticked
      | none => begun
    let written := { boxed with atMarker := false }.inlines {} content
    if tight then written else written.finish
  | .box ticked => w.taskBox ticked
  | .heading task level text =>
    let mark := String.ofList (List.replicate level '#') ++ " "
    let w := w.breakLine.pushLine [{ text := mark }] (headingStyle level)
    let w := match task with
      | some ticked => w.taskBox ticked
      | none => w
    ({ w with needsBreak := false }.inlines {} (Inline.parse defined text)).finish
  | .rule => (w.breakLine.pushLine [{ text := "---" }] {}).finish
  | .code info lines =>
    let w := if w.lines.isEmpty then w else w.newLine
    let w := w.pushLine [{ text := "```" ++ info }] {}
    let w := lines.foldl (fun w line => w.pushLine [{ text := line }] {}) w
    (w.pushLine [{ text := "```" }] {}).finish
  | .quote content =>
    let w := { w.breakLine with needsBreak := false }
    let w := blocks defined false { w with quotes := w.quotes + 1 } content
    { w with quotes := w.quotes - 1 }.finish
  | .list first tight contents =>
    let w := if w.lists = 0 then w.breakLine else w
    let w := items defined tight first { w with lists := w.lists + 1 } contents
    { w with lists := w.lists - 1 }.finish

/-- Writes blocks one after the other. -/
def blocks (defined : Definitions) (tight : Bool) (w : Writer) : List Block → Writer
  | [] => w
  | b :: rest => blocks defined tight (block defined tight w b) rest

/-- Writes the items of a list, numbered upwards if it is ordered. -/
def items (defined : Definitions) (tight : Bool) (number : Option Nat) (w : Writer) :
    List (List Block) → Writer
  | [] => w
  | content :: rest =>
    items defined tight (number.map (· + 1)) (blocks defined tight (w.marker number) content) rest

end

/-- The lines written. -/
def toLines (w : Writer) : List Line :=
  (w.lines.map fun line => { line with spans := line.spans.reverse }).reverse

end Writer

/-- A document as styled lines, without what is blank at its ends. -/
def render (text : String) : List Line :=
  let (content, defined) := Block.parse text
  trimEdges (Writer.blocks defined false {} content).toLines

end TaskConsole.Markdown
