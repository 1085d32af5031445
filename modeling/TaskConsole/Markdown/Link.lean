import TaskConsole.Markdown.Basic
import TaskConsole.Markdown.Cursor
import TaskConsole.Markdown.Reference
import TaskConsole.Number.Hex
import TaskConsole.Text.CaseFold
import TaskConsole.Text.Punctuation

/-!
# Links

The readers of what makes up a link: a label in brackets (`label?`), a destination
(`destination?`), a title (`title?`), the tail of an inline link (`inlineTail?`), an
address in angle brackets (`address?`) and the definition of a label
(`definition?`).  `unescape` resolves backslash escapes and character references.
-/

namespace TaskConsole.Markdown

/-- The character that stands for one that has no code point. -/
def replacement : Char := Char.ofNat 0xFFFD

/-- The character of a number in a reference. -/
def numbered (n : Nat) : Char :=
  if n = 0 || (Char.ofNat n).toNat != n then replacement else Char.ofNat n

/-- Reads a character reference behind its ampersand: what it stands for and what
follows it. -/
def reference? (cs : List Char) : Option (List Char × List Char) :=
  let finish (value : List Char) (rest : List Char) : Option (List Char × List Char) :=
    match rest with
    | ';' :: rest => some (value, rest)
    | _ => none
  match cs with
  | '#' :: x :: rest =>
    if x = 'x' || x = 'X' then
      let digits := rest.takeWhile fun c => (Number.hexValue? c).isSome
      if digits.isEmpty || 6 < digits.length then none
      else finish [numbered (Text.CodeTable.hexNumber digits)] (rest.drop digits.length)
    else
      let digits := (x :: rest).takeWhile Char.isDigit
      if digits.isEmpty || 7 < digits.length then none
      else finish [numbered (digits.foldl (fun n c => n * 10 + (c.toNat - '0'.toNat)) 0)]
        ((x :: rest).drop digits.length)
  | _ =>
    let name := cs.takeWhile Char.isAlphanum
    if name.isEmpty then none
    else match cs.drop name.length with
      | ';' :: rest => (named? name).map fun value => (value, rest)
      | _ => none

/-- The characters with escapes and references resolved and without carriage returns.
The fuel bounds the number of steps. -/
def unescapeChars : (fuel : Nat) → List Char → List Char
  | 0, cs => cs
  | _, [] => []
  | fuel + 1, '\r' :: rest => unescapeChars fuel rest
  | fuel + 1, '\\' :: c :: rest =>
    if Text.isAsciiPunctuation c then c :: unescapeChars fuel rest
    else '\\' :: unescapeChars fuel (c :: rest)
  | fuel + 1, '&' :: rest =>
    match reference? rest with
    | some (value, rest) => value ++ unescapeChars fuel rest
    | none => '&' :: unescapeChars fuel rest
  | fuel + 1, c :: rest => c :: unescapeChars fuel rest

/-- The text with escapes and references resolved and without carriage returns. -/
def unescape (cs : List Char) : String := String.ofList (unescapeChars cs.length cs)

/-- What a label weighs.  Only some of its characters count: a blank or a run of
blanks as many as there are, an escape two, and a character beyond ASCII its bytes. -/
def labelWeight (c : Char) : Nat := if c.toNat < 0x80 then 0 else c.utf8Size

/-- The reading of a label: what was read, the last character first and each run of
blanks as one space, what it weighs, and whether it has a character that is neither
blank nor escaped. -/
structure LabelReading where
  read : List Char := []
  weight : Nat := 0
  named : Bool := false

/-- Reads up to the closing bracket behind an opening one: the label, with each run of
blanks as one space, and what follows it.  A label holds no unescaped bracket, no blank
line, something that is neither blank nor escaped, and weighs less than 1000.  The fuel
bounds the number of steps. -/
def readLabel (s : LabelReading) : (fuel : Nat) → List Char → Option (List Char × List Char)
  | 0, _ => none
  | _, [] => none
  | fuel + 1, c :: rest =>
    if 1000 ≤ s.weight then none
    else if c = '[' then none
    else if c = ']' then if s.named then some (s.read.reverse, rest) else none
    else if c = '\\' then
      match rest with
      | [] => none
      | e :: rest =>
        readLabel { read := e :: c :: s.read, weight := s.weight + 2 + (labelWeight e - 1)
                    named := s.named || 0 < labelWeight e } fuel rest
    else if isGapOrBreak c then
      let blanks := (c :: rest).takeWhile isGapOrBreak
      if 1 < (blanks.filter fun d => d = '\n').length then none
      else readLabel { s with read := ' ' :: s.read, weight := s.weight + blanks.length } fuel
        ((c :: rest).drop blanks.length)
    else
      readLabel { read := c :: s.read, weight := s.weight + labelWeight c, named := true } fuel rest

/-- Reads a label behind its opening bracket. -/
def label? (cs : List Char) : Option (List Char × List Char) := readLabel {} (cs.length + 1) cs

/-- The name that labels with the same letters share: the case of letters does not
count. -/
def labelName (label : List Char) : String := String.ofList (label.flatMap Text.foldCase)

/-- Reads a destination in angle brackets, behind the opening one. -/
def angleDestination (read : List Char) : List Char → Option (List Char × List Char)
  | [] => none
  | '\\' :: c :: rest =>
    if Text.isAsciiPunctuation c then angleDestination (c :: '\\' :: read) rest
    else angleDestination ('\\' :: read) (c :: rest)
  | c :: rest =>
    if c = '>' then some (read.reverse, rest)
    else if c = '<' || isBreak c then none
    else angleDestination (c :: read) rest
termination_by cs => cs.length

/-- The number of round brackets that can be open within each other in a destination. -/
def maxNesting : Nat := 33

/-- Reads a destination without angle brackets; its round brackets are paired. -/
def bareDestination (depth : Nat) (read : List Char) : List Char → Option (List Char × List Char)
  | [] => if depth = 0 then some (read.reverse, []) else none
  | '\\' :: c :: rest =>
    if Text.isAsciiPunctuation c then bareDestination depth (c :: '\\' :: read) rest
    else bareDestination depth ('\\' :: read) (c :: rest)
  | c :: rest =>
    if c = '(' then
      if maxNesting ≤ depth then none else bareDestination (depth + 1) (c :: read) rest
    else if c = ')' then
      match depth with
      | 0 => some (read.reverse, c :: rest)
      | depth + 1 => bareDestination depth (c :: read) rest
    else if c.toNat ≤ 0x20 then
      if depth = 0 then some (read.reverse, c :: rest) else none
    else bareDestination depth (c :: read) rest
termination_by cs => cs.length

/-- Reads the destination of a link. -/
def destination? : List Char → Option (List Char × List Char)
  | '<' :: rest => angleDestination [] rest
  | cs => bareDestination 0 [] cs

/-- Reads up to the unescaped end of a title, which holds no blank line. -/
def titleChars (closing : Char) : List Char → Option (List Char)
  | [] => none
  | '\\' :: _ :: rest => titleChars closing rest
  | c :: rest =>
    if c = closing then some rest
    else if c = '(' && closing = ')' then none
    else titleChars closing rest

/-- Reads a title: what follows it. -/
def title? : List Char → Option (List Char)
  | '"' :: rest => titleChars '"' rest
  | '\x27' :: rest => titleChars '\x27' rest
  | '(' :: rest => titleChars ')' rest
  | _ => none

/-- The characters after blanks and at most one line break. -/
def skipGap (cs : List Char) : List Char :=
  match afterBreak? (cs.dropWhile isGap) with
  | some rest => rest.dropWhile isGap
  | none => cs.dropWhile isGap

/-- Reads the tail of an inline link behind its opening round bracket: the destination
and what follows the link. -/
def inlineTail? (cs : List Char) : Option (List Char × List Char) := do
  let (destination, rest) ← destination? (skipGap cs)
  match skipGap rest with
  | ')' :: after => return (destination, after)
  | behind =>
    match skipGap (← title? behind) with
    | ')' :: after => return (destination, after)
    | _ => none

/-- Whether characters form the scheme of an address: 2 to 32 letters, digits and
signs, a letter first. -/
def isScheme (cs : List Char) : Bool :=
  (match cs.head? with
    | some c => c.isAlpha
    | none => false)
    && 2 ≤ cs.length && cs.length ≤ 32
    && cs.all fun c => c.isAlphanum || c = '+' || c = '.' || c = '-'

/-- Whether characters form the part of a mail address before its sign. -/
def isMailbox (cs : List Char) : Bool :=
  !cs.isEmpty && cs.all fun c =>
    c.isAlphanum || ".!#$%&*+/=?^_\x60\x7b|\x7d~-\x27".toList.contains c

/-- Whether characters form one label of a domain. -/
def isDomainLabel (cs : List Char) : Bool :=
  !cs.isEmpty && cs.length ≤ 63 && cs.head? != some '-' && cs.getLast? != some '-'
    && cs.all fun c => c.isAlphanum || c = '-'

/-- The parts of the characters between separators. -/
def splitAtChar (separator : Char) (cs : List Char) : List (List Char) :=
  cs.foldr (fun c parts => match parts with
    | part :: rest => if c = separator then [] :: part :: rest else (c :: part) :: rest
    | [] => [[c]]) [[]]

/-- Whether characters form a mail address. -/
def isMailAddress (cs : List Char) : Bool :=
  match splitAtChar '@' cs with
  | [mailbox, domain] => isMailbox mailbox && (splitAtChar '.' domain).all isDomainLabel
  | _ => false

/-- Reads an address in angle brackets behind the opening one. -/
def address? (cs : List Char) : Option (List Char × List Char) :=
  let inside := cs.takeWhile fun c => c != '>'
  match cs.drop inside.length with
  | '>' :: rest =>
    let scheme := inside.takeWhile fun c => c != ':'
    let isUri := scheme.length < inside.length && isScheme scheme
      && inside.all fun c => 0x20 < c.toNat && c != '<'
    if isUri || isMailAddress inside then some (inside, rest) else none
  | _ => none

/-- Reads the definition of a label at the front of a paragraph: the name of the label,
its destination, and what follows. -/
def definition? (cs : List Char) : Option ((String × String) × List Char) := do
  let rest ← match cs with
    | '[' :: rest => some rest
    | _ => none
  let (label, rest) ← label? rest
  let rest ← match rest with
    | ':' :: rest => some (skipGap rest)
    | _ => none
  let (destination, behind) ← destination? rest
  if destination.isEmpty && rest.head? != some '<' then none
  else
    let define : String × String := (labelName label, unescape destination)
    let withTitle : Option (List Char) :=
      let next := skipGap behind
      if next.length = behind.length then none else (title? next).bind afterBlankLine?
    match withTitle with
    | some after => return (define, after)
    | none => return (define, ← afterBlankLine? behind)

/-- The definitions at the front of a paragraph, and what is left of it.  The fuel
bounds their number. -/
def definitions (found : Definitions) : (fuel : Nat) → List Char → Definitions × List Char
  | 0, cs => (found.reverse, cs)
  | fuel + 1, cs =>
    match definition? (cs.dropWhile isIndent) with
    | some (define, rest) => definitions (define :: found) fuel rest
    | none => (found.reverse, cs)

end TaskConsole.Markdown
