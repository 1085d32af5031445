import TaskConsole.Styled.Basic
import TaskConsole.Text.Blank

/-!
# Trimming styled lines

`trimEdges` takes the blank lines from both ends of a list of lines, and the blank
spans and characters from the front of the first line and the back of the last.
-/

namespace TaskConsole

/-- Whether a span shows nothing but blank characters. -/
def Span.isBlank (span : Span) : Bool := Text.isBlankText span.text

/-- Whether a line shows nothing but blank characters. -/
def Line.isBlank (line : Line) : Bool := line.spans.all Span.isBlank

/-- The line without what is blank at its front. -/
def Line.trimStart (line : Line) : Line :=
  match line.spans.dropWhile Span.isBlank with
  | [] => { line with spans := [] }
  | span :: rest => { line with spans := { span with text := Text.trimStart span.text } :: rest }

/-- The line without what is blank at its back. -/
def Line.trimEnd (line : Line) : Line :=
  match line.spans.reverse.dropWhile Span.isBlank with
  | [] => { line with spans := [] }
  | span :: rest =>
    { line with spans := ({ span with text := Text.trimEnd span.text } :: rest).reverse }

/-- Applies a change to the last of a list. -/
def modifyLast {α : Type} (f : α → α) : List α → List α
  | [] => []
  | [a] => [f a]
  | a :: b :: rest => a :: modifyLast f (b :: rest)

/-- The lines without the blank ones at both ends. -/
def dropBlankLines (lines : List Line) : List Line :=
  ((lines.dropWhile Line.isBlank).reverse.dropWhile Line.isBlank).reverse

/-- The lines without what is blank at their two ends. -/
def trimEdges (lines : List Line) : List Line :=
  modifyLast Line.trimEnd ((dropBlankLines lines).modifyHead Line.trimStart)

end TaskConsole
