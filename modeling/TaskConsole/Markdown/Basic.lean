/-!
# Markdown documents

A document is a list of `Block`s.  Paragraphs and headings hold their text as it was
written; it is read as a list of `Inline`s once the link definitions of the whole
document are known.
-/

namespace TaskConsole.Markdown

/-- A piece of running text. -/
inductive Inline where
  | text (text : String)
  | code (text : String)
  | softBreak
  | hardBreak
  | emphasis (content : List Inline)
  | strong (content : List Inline)
  | strikethrough (content : List Inline)
  | link (destination : String) (content : List Inline)
  | image (content : List Inline)
deriving Inhabited

/-- A block of a document. -/
inductive Block where
  /-- A paragraph; in a list of tasks it may begin with a box, ticked or not. -/
  | paragraph (task : Option Bool) (text : List Char)
  /-- The box, ticked or not, of a task with no text on its line. -/
  | box (ticked : Bool)
  /-- A heading; what an underline makes of a task begins with its box. -/
  | heading (task : Option Bool) (level : Nat) (text : List Char)
  | rule
  | code (info : String) (lines : List String)
  | quote (blocks : List Block)
  /-- A list of items; an ordered one has the number of its first item, and a tight
  one has no blank line between its blocks. -/
  | list (first : Option Nat) (tight : Bool) (items : List (List Block))
deriving Inhabited

/-- The destinations of the defined link labels, the first definition of a label
first. -/
abbrev Definitions := List (String × String)

end TaskConsole.Markdown
