/-!
# Styled text

A `Style` says what is to change: perhaps the colour of the letters, perhaps the
colour of the ground, the modifiers that are added and those that are removed.
`Style.patch` lays one style over another.  A `Span` is a text in one style, and a
`Line` is a list of spans with a style of its own.
-/

namespace TaskConsole

/-- A colour of the terminal: one of the named ones, one of the indexed palette, or
one by its three components. -/
inductive Color where
  | reset | black | red | green | yellow | blue | magenta | cyan | gray | darkGray
  | lightRed | lightGreen | lightYellow | lightBlue | lightMagenta | lightCyan | white
  | rgb (r g b : UInt8)
  | indexed (index : UInt8)
deriving DecidableEq, Inhabited

/-- A set of the nine ways in which letters can be set off. -/
structure Modifiers where
  bold : Bool := false
  dim : Bool := false
  italic : Bool := false
  underlined : Bool := false
  slowBlink : Bool := false
  rapidBlink : Bool := false
  reversed : Bool := false
  hidden : Bool := false
  crossedOut : Bool := false
deriving DecidableEq, Inhabited

namespace Modifiers

/-- Combines two sets member by member. -/
def zipWith (f : Bool → Bool → Bool) (a b : Modifiers) : Modifiers where
  bold := f a.bold b.bold
  dim := f a.dim b.dim
  italic := f a.italic b.italic
  underlined := f a.underlined b.underlined
  slowBlink := f a.slowBlink b.slowBlink
  rapidBlink := f a.rapidBlink b.rapidBlink
  reversed := f a.reversed b.reversed
  hidden := f a.hidden b.hidden
  crossedOut := f a.crossedOut b.crossedOut

/-- The members of either set. -/
def union (a b : Modifiers) : Modifiers := zipWith (· || ·) a b

/-- The members of the first set that are not in the second. -/
def diff (a b : Modifiers) : Modifiers := zipWith (fun x y => x && !y) a b

end Modifiers

/-- A change of appearance. -/
structure Style where
  fg : Option Color := none
  bg : Option Color := none
  added : Modifiers := {}
  removed : Modifiers := {}
deriving DecidableEq, Inhabited

namespace Style

/-- The style that changes nothing. -/
def plain : Style := {}

/-- The style that sets the colour of the letters. -/
def ofFg (c : Color) : Style := { fg := some c }

/-- The style that sets the colour of the ground. -/
def ofBg (c : Color) : Style := { bg := some c }

/-- The style with the modifiers added; they are removed no more. -/
def add (s : Style) (m : Modifiers) : Style :=
  { s with added := s.added.union m, removed := s.removed.diff m }

/-- The style with the modifiers removed; they are added no more. -/
def remove (s : Style) (m : Modifiers) : Style :=
  { s with added := s.added.diff m, removed := s.removed.union m }

/-- The style that adds bold. -/
def bold (s : Style) : Style := s.add { bold := true }

/-- Lays the second style over the first: where both speak, the second decides. -/
def patch (s upper : Style) : Style where
  fg := upper.fg <|> s.fg
  bg := upper.bg <|> s.bg
  added := (s.added.diff upper.removed).union upper.added
  removed := (s.removed.diff upper.added).union upper.removed

/-- The same style with each modifier named once: one that is both added and removed
is removed. -/
def settle (s : Style) : Style :=
  ({ fg := s.fg, bg := s.bg : Style }.add s.added).remove s.removed

end Style

/-- A text in one style. -/
structure Span where
  text : String
  style : Style := {}
deriving DecidableEq, Inhabited

/-- A line of spans, with a style of its own beneath theirs. -/
structure Line where
  spans : List Span := []
  style : Style := {}
deriving DecidableEq, Inhabited

namespace Line

/-- The line without text. -/
def empty : Line := {}

/-- The line of one text without style. -/
def ofText (text : String) : Line := { spans := [{ text := text }] }

/-- The line of one text in one style. -/
def ofStyled (text : String) (style : Style) : Line :=
  { spans := [{ text := text, style := style }] }

/-- The characters of a line, each with the style of its span. -/
def cells (line : Line) : List (Char × Style) :=
  line.spans.flatMap fun span => span.text.toList.map fun c => (c, span.style)

/-- The text of a line without its styles. -/
def text (line : Line) : String :=
  String.join (line.spans.map Span.text)

/-- The line without empty spans, and with neighbouring spans of equal style joined. -/
def join (line : Line) : Line where
  spans := (line.spans.filter fun span => !span.text.isEmpty).foldr
    (fun span joined => match joined with
      | next :: rest =>
        if span.style = next.style then { next with text := span.text ++ next.text } :: rest
        else span :: next :: rest
      | [] => [span]) []
  style := line.style

end Line

end TaskConsole
