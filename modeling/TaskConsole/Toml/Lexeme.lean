import TaskConsole.Number.Hex
import TaskConsole.Timestamp

/-!
# Lexemes of TOML

The readers of what has no inner structure: blanks, comments and the ends of lines,
texts in the four kinds of quotes, keys, numbers, and dates and times.  Each gives
what it has read and the characters behind it.
-/

namespace TaskConsole.Toml

open Number

/-- Whether a character is a blank within a line. -/
def isGap (c : Char) : Bool := c = ' ' || c = '\t'

/-- The characters behind the blanks. -/
def skipGaps (cs : List Char) : List Char := cs.dropWhile isGap

/-- Whether a character may stand in a comment or a text: all but control characters,
of which only the tab may. -/
def isPlain (c : Char) : Bool := c = '\t' || (0x20 ≤ c.toNat && c.toNat != 0x7F)

/-- The characters behind the end of a line. -/
def lineEnd? : List Char → Option (List Char)
  | '\n' :: rest => some rest
  | '\r' :: '\n' :: rest => some rest
  | _ => none

/-- The characters behind a comment, if there is one. -/
def skipComment : List Char → List Char
  | '#' :: rest => rest.dropWhile isPlain
  | cs => cs

/-- The characters behind the rest of a line, in which nothing but a comment may
stand. -/
def closeLine? (cs : List Char) : Option (List Char) :=
  match skipComment (skipGaps cs) with
  | [] => some []
  | cs => lineEnd? cs

/-- The character of an escape of one letter. -/
def shortEscape? (c : Char) : Option Char :=
  if c = '"' || c = '\\' then some c
  else if c = 'b' then some (Char.ofNat 8)
  else if c = 'f' then some (Char.ofNat 12)
  else if c = 'n' then some '\n'
  else if c = 'r' then some '\r'
  else if c = 't' then some '\t'
  else none

/-- The character whose code hexadecimal digits name. -/
def codeChar? (digits : List Char) : Option Char := do
  let code ← digits.foldlM (fun n c => (hexValue? c).map fun d => n * 16 + d) 0
  if code.isValidChar then some (Char.ofNat code) else none

/-- Reads a text in double quotes behind the first one; `read` holds the characters so
far, the last one first. -/
def basicText (read : List Char) : List Char → Option (List Char × List Char)
  | '"' :: rest => some (read.reverse, rest)
  | '\\' :: 'u' :: a :: b :: c :: d :: rest => do
    basicText ((← codeChar? [a, b, c, d]) :: read) rest
  | '\\' :: 'U' :: a :: b :: c :: d :: e :: f :: g :: h :: rest => do
    basicText ((← codeChar? [a, b, c, d, e, f, g, h]) :: read) rest
  | '\\' :: c :: rest => do basicText ((← shortEscape? c) :: read) rest
  | c :: rest => if isPlain c && c != '\\' then basicText (c :: read) rest else none
  | [] => none

/-- Reads a text in single quotes behind the first one. -/
def literalText (cs : List Char) : Option (List Char × List Char) :=
  let inner := cs.takeWhile fun c => c != '\x27'
  match cs.dropWhile fun c => c != '\x27' with
  | _ :: rest => if inner.all isPlain then some (inner, rest) else none
  | [] => none

/-- Where a backslash at the end of a line has brought the reading: nowhere, in front
of the end of the line, or behind it. -/
inductive Fold where
  | none | before | behind
deriving DecidableEq

/-- Reads a text in three double quotes behind the first three.  Up to two quotes in
front of the last three belong to the text. -/
def longText (read : List Char) : Fold → List Char → Option (List Char × List Char)
  | .before, c :: rest =>
    if isGap c then longText read .before rest
    else if c = '\n' then longText read .behind rest
    else if c = '\r' && rest.head? = some '\n' then longText read .before rest
    else none
  | .behind, ' ' :: rest => longText read .behind rest
  | .behind, '\t' :: rest => longText read .behind rest
  | .behind, '\n' :: rest => longText read .behind rest
  | .behind, '\r' :: '\n' :: rest => longText read .behind rest
  | _, '"' :: '"' :: '"' :: '"' :: '"' :: rest => some (('"' :: '"' :: read).reverse, rest)
  | _, '"' :: '"' :: '"' :: '"' :: rest => some (('"' :: read).reverse, rest)
  | _, '"' :: '"' :: '"' :: rest => some (read.reverse, rest)
  | _, '\\' :: 'u' :: a :: b :: c :: d :: rest => do
    longText ((← codeChar? [a, b, c, d]) :: read) .none rest
  | _, '\\' :: 'U' :: a :: b :: c :: d :: e :: f :: g :: h :: rest => do
    longText ((← codeChar? [a, b, c, d, e, f, g, h]) :: read) .none rest
  | _, '\\' :: c :: rest =>
    match shortEscape? c with
    | some e => longText (e :: read) .none rest
    | none => longText read .before (c :: rest)
  | _, '\r' :: '\n' :: rest => longText ('\n' :: read) .none rest
  | _, c :: rest => if isPlain c || c = '\n' then longText (c :: read) .none rest else none
  | _, [] => none

/-- Reads a text in three single quotes behind the first three. -/
def longLiteral (read : List Char) : List Char → Option (List Char × List Char)
  | '\x27' :: '\x27' :: '\x27' :: '\x27' :: '\x27' :: rest =>
    some (('\x27' :: '\x27' :: read).reverse, rest)
  | '\x27' :: '\x27' :: '\x27' :: '\x27' :: rest => some (('\x27' :: read).reverse, rest)
  | '\x27' :: '\x27' :: '\x27' :: rest => some (read.reverse, rest)
  | '\r' :: '\n' :: rest => longLiteral ('\n' :: read) rest
  | c :: rest => if isPlain c || c = '\n' then longLiteral (c :: read) rest else none
  | [] => none

/-- The characters behind the end of a line, if there is one. -/
def skipLineEnd (cs : List Char) : List Char := (lineEnd? cs).getD cs

/-- Reads a text in any quotes. -/
def text? : List Char → Option (List Char × List Char)
  | '"' :: '"' :: '"' :: rest => longText [] .none (skipLineEnd rest)
  | '"' :: rest => basicText [] rest
  | '\x27' :: '\x27' :: '\x27' :: rest => longLiteral [] (skipLineEnd rest)
  | '\x27' :: rest => literalText rest
  | _ => none

/-- Whether a character may stand in a key without quotes. -/
def isBare (c : Char) : Bool := c.isAlphanum || c = '-' || c = '_'

/-- Reads a key without dots. -/
def simpleKey? : List Char → Option (List Char × List Char)
  | '"' :: rest => basicText [] rest
  | '\x27' :: rest => literalText rest
  | cs =>
    let key := cs.takeWhile isBare
    if key.isEmpty then none else some (key, cs.dropWhile isBare)

/-- Reads a key and the blanks around it: the parts in front of the last one, and that.
The fuel bounds the number of parts. -/
def key? : (fuel : Nat) → List Char → Option ((List String × String) × List Char)
  | 0, _ => none
  | fuel + 1, cs => do
    let (part, rest) ← simpleKey? (skipGaps cs)
    match skipGaps rest with
    | '.' :: rest =>
      let ((path, last), rest) ← key? fuel rest
      return ((String.ofList part :: path, last), rest)
    | rest => return (([], String.ofList part), rest)

/-- The number of parts that a key may have. -/
def keyLimit : Nat := 79

/-- Digits of a base, which may have single underscores between them: the digits, and
what follows them.  `inside` says that a digit stands in front. -/
def digitRun (isDigit : Char → Bool) : (inside : Bool) → List Char → List Char × List Char
  | inside, '_' :: d :: rest =>
    if inside && isDigit d then
      let run := digitRun isDigit true rest
      (d :: run.1, run.2)
    else ([], '_' :: d :: rest)
  | _, d :: rest =>
    if isDigit d then
      let run := digitRun isDigit true rest
      (d :: run.1, run.2)
    else ([], d :: rest)
  | _, [] => ([], [])

/-- Whether a character is a digit of a base. -/
def isDigitOf (base : Nat) (c : Char) : Bool := (hexValue? c).any (· < base)

/-- The number of digits of a base. -/
def valueOf (base : Nat) (digits : List Char) : Nat :=
  digits.foldl (fun n c => n * base + (hexValue? c).getD 0) 0

/-- Reads the digits of a decimal integer; a zero stands alone. -/
def wholeDigits? (cs : List Char) : Option (List Char × List Char) :=
  match cs with
  | '0' :: rest => some (['0'], rest)
  | cs =>
    let run := digitRun Char.isDigit false cs
    if run.1.isEmpty then none else some run

/-- Cuts a sign from the front: whether it is a minus, and what follows it. -/
def sign : List Char → Bool × List Char
  | '-' :: rest => (true, rest)
  | '+' :: rest => (false, rest)
  | cs => (false, cs)

/-- The least natural number that an integer does not reach. -/
def signLimit : Nat := 0x8000000000000000

/-- Reads an integer of a base behind its mark. -/
def basedInteger? (base : Nat) (cs : List Char) : Option (Int × List Char) :=
  let run := digitRun (isDigitOf base) false cs
  let value := valueOf base run.1
  if run.1.isEmpty || signLimit ≤ value then none else some ((value : Int), run.2)

/-- Reads an integer, which has 64 bits. -/
def integer? : List Char → Option (Int × List Char)
  | '0' :: 'x' :: rest => basedInteger? 16 rest
  | '0' :: 'o' :: rest => basedInteger? 8 rest
  | '0' :: 'b' :: rest => basedInteger? 2 rest
  | cs => do
    let (negative, rest) := sign cs
    let (digits, rest) ← wholeDigits? rest
    let value : Int := valueOf 10 digits
    let value := if negative then -value else value
    if -(signLimit : Int) ≤ value && value < signLimit then return (value, rest) else none

/-- Whether digits times a power of ten are beyond the largest float. -/
def isTooLarge (digits : List Char) (exponent : Int) : Bool :=
  let digits := digits.dropWhile fun c => c = '0'
  let order : Int := digits.length + exponent
  if digits.isEmpty || order < 300 then false
  else if 310 < order then true
  else if 0 ≤ exponent then (Float.ofScientific (valueOf 10 digits) false exponent.toNat).isInf
  else (Float.ofScientific (valueOf 10 digits) true (-exponent).toNat).isInf

/-- Reads an exponent, if there is one. -/
def exponent? : List Char → Option (Option Int × List Char)
  | e :: rest =>
    if e = 'e' || e = 'E' then
      let (negative, rest) := sign rest
      let run := digitRun Char.isDigit false rest
      let value : Int := valueOf 10 run.1
      if run.1.isEmpty then none else some (some (if negative then -value else value), run.2)
    else some (none, e :: rest)
  | [] => some (none, [])

/-- The characters behind a float.  One with digits has a point or an exponent, and is
not beyond the largest float unless it is negative. -/
def afterFloat? (cs : List Char) : Option (List Char) :=
  let (negative, rest) := sign cs
  match rest with
  | 'i' :: 'n' :: 'f' :: rest => some rest
  | 'n' :: 'a' :: 'n' :: rest => some rest
  | rest => do
    let (whole, rest) ← wholeDigits? rest
    let (places, rest, pointed) ← match rest with
      | '.' :: rest =>
        let run := digitRun Char.isDigit false rest
        if run.1.isEmpty then none else some (run.1, run.2, true)
      | rest => some ([], rest, false)
    let (exponent, rest) ← exponent? rest
    if !pointed && exponent.isNone then none
    else if !negative && isTooLarge (whole ++ places) (exponent.getD 0 - places.length) then none
    else return rest

/-- Reads two digits whose number has bounds. -/
def bounded? (least most : Nat) (cs : List Char) : Option (Nat × List Char) := do
  let (n, rest) ← Timestamp.twoDigits? cs
  if least ≤ n && n ≤ most then return (n, rest) else none

/-- The characters behind a mark. -/
def afterMark? (mark : Char) : List Char → Option (List Char)
  | c :: rest => if c = mark then some rest else none
  | [] => none

/-- The characters behind a date of the calendar. -/
def afterDate? (cs : List Char) : Option (List Char) := do
  let (century, rest) ← Timestamp.twoDigits? cs
  let (year, rest) ← Timestamp.twoDigits? rest
  let (month, rest) ← bounded? 1 12 (← afterMark? '-' rest)
  let (_, rest) ← bounded? 1 (CivilDate.monthLength (century * 100 + year) month)
    (← afterMark? '-' rest)
  return rest

/-- The characters behind a time of the day. -/
def afterTime? (cs : List Char) : Option (List Char) := do
  let (_, rest) ← bounded? 0 23 cs
  let (_, rest) ← bounded? 0 59 (← afterMark? ':' rest)
  let (_, rest) ← bounded? 0 60 (← afterMark? ':' rest)
  match rest with
  | '.' :: places =>
    if places.head?.any Char.isDigit then return places.dropWhile Char.isDigit else return rest
  | rest => return rest

/-- The characters behind an offset from UTC, if there is one. -/
def afterOffset? : List Char → Option (List Char)
  | 'Z' :: rest => some rest
  | 'z' :: rest => some rest
  | c :: rest =>
    if c = '+' || c = '-' then do
      let (_, rest) ← bounded? 0 23 rest
      let (_, rest) ← bounded? 0 59 (← afterMark? ':' rest)
      return rest
    else some (c :: rest)
  | [] => some []

/-- The characters behind the time that may follow a date. -/
def afterTimeOfDate? : List Char → Option (List Char)
  | c :: rest =>
    if c = 'T' || c = 't' || c = ' ' then
      match afterTime? rest with
      | some rest => afterOffset? rest
      | none => some (c :: rest)
    else some (c :: rest)
  | [] => some []

/-- The characters behind a date, a time or both. -/
def afterMoment? (cs : List Char) : Option (List Char) :=
  match afterDate? cs with
  | some rest => afterTimeOfDate? rest
  | none => afterTime? cs

end TaskConsole.Toml
