import TaskConsole.Markdown.Link

/-!
# Running text

`Inline.parse` reads the text of a paragraph.  It goes through the characters once,
keeping the brackets that are still open (`Bracket`); a closing bracket ends a link if
a destination follows it or its label is defined.  Between brackets stand finished
pieces and runs of the marks `*`, `_` and `~` (`Piece`), which `pairRuns` pairs up
from the inside: a run closes with the nearest run before it that may open, of the
same mark.
-/

namespace TaskConsole.Markdown

/-- A run of equal marks: how many there are, how many there were, and whether it may
open or close. -/
structure Run where
  mark : Char
  count : Nat
  total : Nat
  canOpen : Bool
  canClose : Bool

/-- The marks of a run as text. -/
def Run.text (r : Run) : Inline := .text (String.ofList (List.replicate r.count r.mark))

/-- A finished piece of text, a run that may still be paired, a line break behind a
backslash, or the blanks at the end of a heading. -/
inductive Piece where
  | done (content : Inline)
  | run (r : Run)
  | escapedBreak
  | blankEnd (text : String)

/-- A piece with its run taken as text. -/
def Piece.settle : Piece → Inline
  | .done content => content
  | .run r => r.text
  | .escapedBreak => .hardBreak
  | .blankEnd text => .text text

/-- Whether a piece is a run. -/
def Piece.isRun : Piece → Bool
  | .run _ => true
  | _ => false

/-- Whether the first run may be paired with the second one after it.  Where one of
them may both open and close, their lengths together are no multiple of three, unless
each is; tildes are paired in equal numbers. -/
def Run.pairsWith (opener closer : Run) : Bool :=
  opener.mark = closer.mark && opener.canOpen
    && (opener.mark != '~' || opener.total = closer.total)
    && (!(opener.canClose || closer.canOpen) || (opener.total + closer.total) % 3 != 0
      || (opener.total % 3 = 0 && closer.total % 3 = 0))

/-- Among pieces with the last one first, the nearest run that pairs with a closing one:
the pieces after it, in their order, the run, and the pieces before it, the last one
first. -/
def findOpener (closer : Run) (after : List Piece) :
    List Piece → Option (List Piece × Run × List Piece)
  | [] => none
  | .run r :: before =>
    if r.pairsWith closer then some (after, r, before)
    else findOpener closer (.run r :: after) before
  | piece :: before => findOpener closer (piece :: after) before

/-- What a pair of marks makes of its content. -/
def wrapPair (mark : Char) (count : Nat) (content : List Inline) : Inline :=
  if mark = '~' then .strikethrough content
  else if count = 2 then .strong content
  else .emphasis content

/-- Pairs a closing run as often as it can be, then keeps what is left of it.  The
fuel bounds the number of pairs; its length is enough. -/
def closeRun (r : Run) (stack : List Piece) : (fuel : Nat) → List Piece
  | 0 => .run r :: stack
  | fuel + 1 =>
    match findOpener r [] stack with
    | some (inside, opener, before) =>
      let n := if 2 ≤ opener.count && 2 ≤ r.count then 2 else 1
      let pair : Piece := .done (wrapPair r.mark n (inside.map Piece.settle))
      let left := if opener.count = n then before
        else .run { opener with count := opener.count - n } :: before
      if r.count = n then pair :: left
      else closeRun { r with count := r.count - n } (pair :: left) fuel
    | none => (if r.canOpen then .run r else .done r.text) :: stack

/-- Takes the next piece.  Blanks at the end do not show behind a pair or code. -/
def takePiece (stack : List Piece) : Piece → List Piece
  | .done content => .done content :: stack
  | .escapedBreak => .escapedBreak :: stack
  | .blankEnd text =>
    match stack with
    | .done (.text _) :: _ => .done (.text text) :: stack
    | .done (.link ..) :: _ => .done (.text text) :: stack
    | .run _ :: _ => .done (.text text) :: stack
    | [] => [.done (.text text)]
    | _ => stack
  | .run r =>
    if r.canClose then closeRun r stack (r.count + 1)
    else (if r.canOpen then .run r else .done r.text) :: stack

/-- The pieces with all runs paired or taken as text. -/
def pairRuns (pieces : List Piece) : List Inline :=
  (pieces.foldl takePiece []).reverse.map Piece.settle

/-- The content of a link from its pieces, the last one first.  A backslash before a line
break at its end is text if it holds runs. -/
def linkContent (pieces : List Piece) : List Inline :=
  match pieces with
  | .escapedBreak :: before =>
    if before.any Piece.isRun then pairRuns ((.done (.text "\\") :: before).reverse)
    else pairRuns pieces.reverse
  | _ => pairRuns pieces.reverse

/-- An open bracket: whether it opens an image, whether it may still open a link, the
pieces behind it, the last one first, and the characters that follow it. -/
structure Bracket where
  image : Bool := false
  active : Bool := true
  pieces : List Piece := []
  rest : List Char := []

/-- The text of an open bracket. -/
def Bracket.mark (b : Bracket) : Inline := .text (if b.image then "![" else "[")

/-- The reader of running text: the brackets that are open, the innermost first, the
pieces outside of them, the last one first, and the character read last. -/
structure Reader where
  brackets : List Bracket := []
  pieces : List Piece := []
  previous : Option Char := none

namespace Reader

/-- Adds a piece. -/
def push (s : Reader) (piece : Piece) : Reader :=
  match s.brackets with
  | b :: outer => { s with brackets := { b with pieces := piece :: b.pieces } :: outer }
  | [] => { s with pieces := piece :: s.pieces }

/-- Adds finished text. -/
def pushText (s : Reader) (text : List Char) : Reader :=
  if text.isEmpty then s else s.push (.done (.text (String.ofList text)))

/-- Notes the character read last. -/
def after (s : Reader) (c : Char) : Reader := { s with previous := some c }

/-- Adds pieces, the last one first. -/
def pushAll (s : Reader) (pieces : List Piece) : Reader :=
  pieces.foldr (fun piece s => s.push piece) s

/-- Takes the innermost bracket for text. -/
def giveUp (s : Reader) : Reader :=
  match s.brackets with
  | b :: outer => ({ s with brackets := outer }.push (.done b.mark)).pushAll b.pieces
  | [] => s

/-- Makes a link or an image of the innermost bracket; no link encloses a link. -/
def close (s : Reader) (destination : String) : Reader :=
  match s.brackets with
  | b :: outer =>
    let content := linkContent b.pieces
    if b.image then { s with brackets := outer }.push (.done (.image content))
    else
      let outer := outer.map fun o => if o.image then o else { o with active := false }
      { s with brackets := outer }.push (.done (.link destination content))
  | [] => s

end Reader

/-- Whether a character is a blank of a text, or missing. -/
def blankAt (c : Option Char) : Bool := c.all Text.isBlank

/-- Whether a run of marks may open, by the characters around it.  Single underscores
and tildes do not open inside a word. -/
def runOpens (mark : Char) (count : Nat) (previous next : Option Char) : Bool :=
  match next with
  | none => false
  | some c =>
    !Text.isBlank c
      && (blankAt previous
        || mark = '*' && !Text.isPunctuation c
        || mark = '~' && 1 < count
        || previous.any fun p => Text.isPunctuation p)

/-- Whether a run of marks may close, by the characters around it. -/
def runCloses (mark : Char) (count : Nat) (previous next : Option Char) : Bool :=
  match previous with
  | none => false
  | some c =>
    !Text.isBlank c
      && (blankAt next
        || (mark = '*' || mark = '~' && 1 < count) && !Text.isPunctuation c
        || mark = '~' && c = '~'
        || next.any fun n => Text.isPunctuation n)

/-- The content of a code span behind its opening backticks, of which there are
`count`, and what follows it. -/
def codeSpan? (count : Nat) (read : List Char) :
    (fuel : Nat) → List Char → Option (List Char × List Char)
  | 0, _ => none
  | _, [] => none
  | fuel + 1, c :: rest =>
    if c = '\x60' then
      let ticks := rest.takeWhile fun c => c = '\x60'
      let after := rest.drop ticks.length
      if ticks.length + 1 = count then some (read.reverse, after)
      else codeSpan? count (ticks ++ c :: read) fuel after
    else codeSpan? count (c :: read) fuel rest

/-- The content of a code span as it is shown: line breaks as spaces, and one space
less at each end where both have one and there is more. -/
def codeText (cs : List Char) : String :=
  let cs := cs.map fun c => if isBreak c then ' ' else c
  String.ofList <|
    if cs.head? = some ' ' && cs.getLast? = some ' ' && cs.any fun c => c != ' ' then
      (cs.drop 1).dropLast
    else cs

/-- Whether a character may begin something other than plain text. -/
def isSpecial (c : Char) : Bool :=
  c = '\\' || c = '\x60' || c = '*' || c = '_' || c = '~' || c = '[' || c = ']' || c = '!'
    || c = '<' || c = '&' || isBreak c

/-- The last piece that was read, within the innermost bracket. -/
def Reader.last? (s : Reader) : Option Piece :=
  match s.brackets with
  | b :: _ => b.pieces.head?
  | [] => s.pieces.head?

/-- Adds the blanks at the end of a text.  They do not show behind a character reference
or a link by its label. -/
def Reader.pushEnd (s : Reader) (blanks : List Char) : Reader :=
  let hidden := match s.last?, s.previous with
    | some (.done (.text _)), some c => c = ';'
    | some (.done (.link ..)), some c => c = ']'
    | _, _ => false
  if blanks.isEmpty || hidden then s else s.push (.blankEnd (String.ofList blanks))

/-- Adds plain text that ends before `rest`; blanks before a line break belong to the
break, as does the indentation behind it, and two of them before it make it a hard
one. -/
def plainText (s : Reader) (text rest : List Char) : Reader × List Char :=
  match rest with
  | [] => (if text.all isGap then s.pushEnd text else s.pushText text, [])
  | c :: _ =>
    if isBreak c then
      let kept := (text.reverse.dropWhile isGap).reverse
      let hard := 2 ≤ text.length - kept.length
      (((s.pushText kept).push (.done (if hard then .hardBreak else .softBreak))).after '\n',
        (afterLine rest).dropWhile isIndent)
    else match text.getLast? with
      | some c => ((s.pushText text).after c, rest)
      | none => (s, rest)

/-- The characters of a bracket that was closed just before `rest`. -/
def bracketSource (b : Bracket) (rest : List Char) : List Char :=
  b.rest.take (b.rest.length - rest.length - 1)

/-- The destination of a link whose label ended just before `rest`, the last character
of the link, and what follows it. -/
def linkTarget? (defined : Definitions) (b : Bracket) (rest : List Char) :
    Option (String × Char × List Char) :=
  let known (label : List Char) (rest : List Char) : Option (String × Char × List Char) :=
    (defined.find? fun d => d.1 = labelName label).map fun d => (d.2, ']', rest)
  let source := bracketSource b rest ++ [']']
  let own (after : List Char) : Option (String × Char × List Char) :=
    match label? source with
    | some (label, []) => known label after
    | _ => none
  let behind := match rest with
    | '\\' :: '[' :: behind => '[' :: behind
    | _ => rest
  let byLabel : Option (String × Char × List Char) :=
    match behind with
    | '[' :: ']' :: after => own after
    | '[' :: behind =>
      match label? behind with
      | some (label, after) => known label after
      | none => own rest
    | _ => if !rest.isEmpty && rest.all isGap then none else own rest
  match rest with
  | '(' :: tail =>
    match inlineTail? tail with
    | some (destination, after) => some (unescape destination, ')', after)
    | none => byLabel
  | _ => byLabel

/-- Reads the characters of running text.  The fuel bounds the number of steps. -/
def readInline (defined : Definitions) : (fuel : Nat) → Reader → List Char → Reader
  | 0, s, _ => s
  | _, s, [] => s
  | fuel + 1, s, c :: rest =>
    if isBreak c then
      let (s, rest) := plainText s [] (c :: rest)
      readInline defined fuel s rest
    else if !isSpecial c then
      let text := (c :: rest).takeWhile fun c => !isSpecial c
      let (s, rest) := plainText s text ((c :: rest).drop text.length)
      readInline defined fuel s rest
    else if c = '\\' then
      match rest with
      | e :: after =>
        if isBreak e then
          readInline defined fuel ((s.push .escapedBreak).after '\n')
            ((afterLine rest).dropWhile isIndent)
        else if Text.isAsciiPunctuation e then
          readInline defined fuel ((s.pushText [e]).after e) after
        else readInline defined fuel ((s.pushText [c]).after c) rest
      | [] => s.pushText [c]
    else if c = '\x60' then
      let ticks := rest.takeWhile fun c => c = '\x60'
      let behind := rest.drop ticks.length
      match codeSpan? (ticks.length + 1) [] behind.length behind with
      | some (content, after) =>
        readInline defined fuel ((s.push (.done (.code (codeText content)))).after c) after
      | none => readInline defined fuel ((s.pushText (c :: ticks)).after c) behind
    else if c = '*' || c = '_' || c = '~' then
      let more := rest.takeWhile fun d => d = c
      let behind := rest.drop more.length
      let count := more.length + 1
      let canOpen := runOpens c count s.previous behind.head?
      let canClose := runCloses c count s.previous behind.head?
      let valid := (canOpen || canClose) && (c != '~' || count ≤ 2)
      let s := if valid then s.push (.run ⟨c, count, count, canOpen, canClose⟩)
        else s.pushText (c :: more)
      readInline defined fuel (s.after c) behind
    else if c = '[' then
      readInline defined fuel
        ({ s with brackets := { rest := rest } :: s.brackets }.after c) rest
    else if c = '!' then
      match rest with
      | '[' :: after =>
        readInline defined fuel
          ({ s with brackets := { image := true, rest := after } :: s.brackets }.after '[') after
      | _ => readInline defined fuel ((s.pushText [c]).after c) rest
    else if c = ']' then
      match s.brackets with
      | [] => readInline defined fuel ((s.pushText [c]).after c) rest
      | b :: _ =>
        match if b.active then linkTarget? defined b rest else none with
        | some (destination, last, after) =>
          readInline defined fuel ((s.close destination).after last) after
        | none => readInline defined fuel ((s.giveUp.pushText [c]).after c) rest
    else if c = '<' then
      match address? rest with
      | some (address, after) =>
        let text := String.ofList address
        readInline defined fuel ((s.push (.done (.link text [.text text]))).after '>') after
      | none => readInline defined fuel ((s.pushText [c]).after c) rest
    else
      match reference? rest with
      | some (value, after) => readInline defined fuel ((s.pushText value).after ';') after
      | none => readInline defined fuel ((s.pushText [c]).after c) rest

/-- Takes all brackets that stayed open for text. -/
def closeAll : (fuel : Nat) → Reader → Reader
  | 0, s => s
  | fuel + 1, s => if s.brackets.isEmpty then s else closeAll fuel s.giveUp

/-- The running text that the characters of a paragraph say. -/
def Inline.parse (defined : Definitions) (cs : List Char) : List Inline :=
  let s := readInline defined (cs.length + 1) {} cs
  pairRuns (closeAll (s.brackets.length + 1) s).pieces.reverse

end TaskConsole.Markdown
