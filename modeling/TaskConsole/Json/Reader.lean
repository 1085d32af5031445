import TaskConsole.Json.Basic
import TaskConsole.Number.Hex

/-!
# Reading JSON

`Json.read?` reads a JSON text by the strict grammar: one value with blanks around
it, no comma too many, no control character inside a text, no zero in front of other
digits.  A number with a fraction or an exponent, and an integer beyond 64 bits, is
read as a float by scaling its leading digits with a power of ten.
-/

namespace TaskConsole.Json

open Number

/-- Whether a character may stand between tokens. -/
def isSpace (c : Char) : Bool := c = ' ' || c = '\t' || c = '\n' || c = '\r'

/-- The characters after the blanks at the front. -/
def skip (cs : List Char) : List Char := cs.dropWhile isSpace

/-- The value of a digit. -/
def digit (c : Char) : Nat := c.toNat - '0'.toNat

/-- The value of four hexadecimal digits. -/
def hex4? (a b c d : Char) : Option Nat := do
  return ((← hexValue? a) * 16 + (← hexValue? b)) * 256 + (← hexValue? c) * 16 + (← hexValue? d)

/-- Whether a code unit is the first half of a pair. -/
def isHighSurrogate (n : Nat) : Bool := 0xD800 ≤ n && n ≤ 0xDBFF

/-- Whether a code unit is the second half of a pair. -/
def isLowSurrogate (n : Nat) : Bool := 0xDC00 ≤ n && n ≤ 0xDFFF

/-- The character of two paired code units. -/
def pairChar (high low : Nat) : Char :=
  Char.ofNat (0x10000 + (high - 0xD800) * 0x400 + (low - 0xDC00))

/-- The character of a short escape. -/
def shortEscape? (c : Char) : Option Char :=
  if c = '"' || c = '\\' || c = '/' then some c
  else if c = 'b' then some (Char.ofNat 8)
  else if c = 'f' then some (Char.ofNat 12)
  else if c = 'n' then some '\n'
  else if c = 'r' then some '\r'
  else if c = 't' then some '\t'
  else none

/-- Reads the characters of a text up to its closing quote.  `read` holds the
characters so far, the last one first, and `high` a first half that waits for its
second; `proper` is false once a half has stayed alone. -/
def readChars (read : List Char) (high : Option Nat) (proper : Bool) :
    List Char → Option (Option String × List Char)
  | '"' :: rest =>
    some (if proper && high.isNone then some (String.ofList read.reverse) else none, rest)
  | '\\' :: 'u' :: a :: b :: c :: d :: rest =>
    match hex4? a b c d with
    | none => none
    | some n =>
      match high, isLowSurrogate n, isHighSurrogate n with
      | some h, true, _ => readChars (pairChar h n :: read) none proper rest
      | none, true, _ => readChars read none false rest
      | none, false, true => readChars read (some n) proper rest
      | some _, false, true => readChars read (some n) false rest
      | none, false, false => readChars (Char.ofNat n :: read) none proper rest
      | some _, false, false => readChars (Char.ofNat n :: read) none false rest
  | '\\' :: c :: rest =>
    match shortEscape? c with
    | none => none
    | some e => readChars (e :: read) none (proper && high.isNone) rest
  | c :: rest =>
    if c.toNat < 0x20 || c = '\\' then none
    else readChars (c :: read) none (proper && high.isNone) rest
  | [] => none

/-- The leading digits of a number as far as they fit into 64 bits, and the power of
ten that stands for the others. -/
structure Scaled where
  digits : Nat := 0
  exponent : Int := 0
  full : Bool := false

/-- Takes a digit in front of the point. -/
def Scaled.whole (s : Scaled) (d : Nat) : Scaled :=
  if s.full || Count.largest < s.digits * 10 + d then
    { s with exponent := s.exponent + 1, full := true }
  else { s with digits := s.digits * 10 + d }

/-- Takes a digit behind the point. -/
def Scaled.fraction (s : Scaled) (d : Nat) : Scaled :=
  if s.full || Count.largest < s.digits * 10 + d then { s with full := true }
  else { s with digits := s.digits * 10 + d, exponent := s.exponent - 1 }

/-- The largest power of ten below the largest float. -/
def largestPower : Nat := 308

/-- A power of ten, at most the largest one. -/
def power (n : Nat) : Float := Float.ofScientific 1 false n

/-- Scales a float by a power of ten, in at most `steps` steps down; `none` if the
result is beyond the range. -/
def scaleFloat? (x : Float) (exponent : Int) : (steps : Nat) → Option Float
  | 0 => some 0
  | steps + 1 =>
    if exponent.natAbs ≤ largestPower then
      if 0 ≤ exponent then
        let scaled := x * power exponent.natAbs
        if scaled.isInf then none else some scaled
      else some (x / power exponent.natAbs)
    else if x == 0 then some x
    else if 0 ≤ exponent then none
    else scaleFloat? (x / power largestPower) (exponent + largestPower) steps

/-- The float of a scaled number; three steps down bring every such number to zero. -/
def Scaled.toFloat? (s : Scaled) (negative : Bool) : Option Float :=
  (scaleFloat? (UInt64.ofNat s.digits).toFloat s.exponent 4).map fun x => if negative then -x else x

/-- The integer that the digits are, unless they fit only into a float. -/
def integerOf (s : Scaled) (negative : Bool) : Option Numeral :=
  if s.full then (s.toFloat? negative).map .real
  else if negative then
    if s.digits = 0 || 0x8000000000000000 < s.digits then (s.toFloat? true).map .real
    else some (.integer (-(s.digits : Int)))
  else some (.integer s.digits)

/-- Reads an exponent behind its letter: whether it is negative, and its digits. -/
def readExponent (cs : List Char) : Option (Bool × List Char × List Char) :=
  let (negative, rest) := match cs with
    | '+' :: rest => (false, rest)
    | '-' :: rest => (true, rest)
    | rest => (false, rest)
  let digits := rest.takeWhile Char.isDigit
  if digits.isEmpty then none else some (negative, digits, rest.dropWhile Char.isDigit)

/-- Exponents are below this bound; a larger one counts as it. -/
def exponentCap : Nat := 0x7FFFFFFF

/-- The value of the digits of an exponent. -/
def exponentOf (digits : List Char) : Nat :=
  digits.foldl (fun n c => min exponentCap (n * 10 + digit c)) 0

/-- Reads the rest of a number behind its whole part. -/
def readTail (negative : Bool) (whole : Scaled) (cs : List Char) :
    Option (Option Numeral × List Char) :=
  let withExponent (s : Scaled) (cs : List Char) : Option (Option Numeral × List Char) := do
    let (down, digits, rest) ← readExponent cs
    let e : Int := if down then -(exponentOf digits : Int) else exponentOf digits
    return (({ s with exponent := s.exponent + e }.toFloat? negative).map .real, rest)
  match cs with
  | '.' :: rest =>
    let digits := rest.takeWhile Char.isDigit
    let rest := rest.dropWhile Char.isDigit
    let s := digits.foldl (fun s c => s.fraction (digit c)) { whole with full := false }
    if digits.isEmpty then none
    else match rest with
      | 'e' :: rest => withExponent s rest
      | 'E' :: rest => withExponent s rest
      | rest => some ((s.toFloat? negative).map .real, rest)
  | 'e' :: rest => withExponent whole rest
  | 'E' :: rest => withExponent whole rest
  | rest => some (integerOf whole negative, rest)

/-- Reads a number without its sign. -/
def readNumber (negative : Bool) (cs : List Char) : Option (Option Numeral × List Char) :=
  let digits := cs.takeWhile Char.isDigit
  match digits with
  | [] => none
  | '0' :: _ :: _ => none
  | _ =>
    let whole := digits.foldl (fun (s : Scaled) c => s.whole (digit c)) {}
    readTail negative whole (cs.dropWhile Char.isDigit)

/-- The characters after a word at the front. -/
def afterWord? (word : List Char) (cs : List Char) : Option (List Char) :=
  if word.isPrefixOf cs then some (cs.drop word.length) else none

mutual

/-- Reads a value.  The fuel bounds how deep values nest and how many follow one
another; the length of the text is always enough. -/
def readValue : (fuel : Nat) → List Char → Option (Json × List Char)
  | 0, _ => none
  | fuel + 1, cs =>
    match skip cs with
    | '"' :: rest => (readChars [] none true rest).map fun r => (.text r.1, r.2)
    | '[' :: rest =>
      match skip rest with
      | ']' :: rest => some (.array [], rest)
      | _ => (readItems fuel rest).map fun r => (.array r.1, r.2)
    | '{' :: rest =>
      match skip rest with
      | '}' :: rest => some (.object [], rest)
      | _ => (readMembers fuel rest).map fun r => (.object r.1, r.2)
    | '-' :: rest => (readNumber true rest).map fun r => (.number r.1, r.2)
    | cs@('n' :: _) => (afterWord? ['n', 'u', 'l', 'l'] cs).map fun rest => (.null, rest)
    | cs@('t' :: _) => (afterWord? ['t', 'r', 'u', 'e'] cs).map fun rest => (.bool true, rest)
    | cs@('f' :: _) =>
      (afterWord? ['f', 'a', 'l', 's', 'e'] cs).map fun rest => (.bool false, rest)
    | cs => (readNumber false cs).map fun r => (.number r.1, r.2)

/-- Reads the items of an array, of which there is one at least. -/
def readItems : (fuel : Nat) → List Char → Option (List Json × List Char)
  | 0, _ => none
  | fuel + 1, cs =>
    match readValue fuel cs with
    | none => none
    | some (item, rest) =>
      match skip rest with
      | ',' :: rest => (readItems fuel rest).map fun r => (item :: r.1, r.2)
      | ']' :: rest => some ([item], rest)
      | _ => none

/-- Reads the members of an object, of which there is one at least. -/
def readMembers : (fuel : Nat) → List Char → Option (List (Option String × Json) × List Char)
  | 0, _ => none
  | fuel + 1, cs =>
    match skip cs with
    | '"' :: rest =>
      match readChars [] none true rest with
      | none => none
      | some (name, rest) =>
        match skip rest with
        | ':' :: rest =>
          match readValue fuel rest with
          | none => none
          | some (value, rest) =>
            match skip rest with
            | ',' :: rest => (readMembers fuel rest).map fun r => ((name, value) :: r.1, r.2)
            | '}' :: rest => some ([(name, value)], rest)
            | _ => none
        | _ => none
    | _ => none

end

/-- The value of a JSON text. -/
def read? (text : String) : Option Json :=
  let cs := text.toList
  match readValue (cs.length + 1) cs with
  | some (value, rest) => if (skip rest).isEmpty then some value else none
  | none => none

end TaskConsole.Json
