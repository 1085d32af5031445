/-!
# Names beyond ASCII

`Punycode.encode` writes a label of a host name in ASCII, by the rules of RFC 3492:
first its ASCII characters, then for each other character, in the order of their
codes, how far its place lies behind the one before, as a number whose digits have
places of growing weight.  `Punycode.decode?` reads a label that is written so.
-/

namespace TaskConsole.Punycode

/-- The digit of a number below 36. -/
def digit (n : Nat) : Char :=
  if n < 26 then Char.ofNat ('a'.toNat + n) else Char.ofNat ('0'.toNat + (n - 26))

/-- The least digit that is not the last one, at a place. -/
def threshold (place bias : Nat) : Nat := max 1 (min 26 (place - bias))

/-- The digits of a distance from a place on. -/
def digits (bias : Nat) : (fuel : Nat) → (place q : Nat) → List Char
  | 0, _, _ => []
  | fuel + 1, place, q =>
    let t := threshold place bias
    if q < t then [digit q]
    else digit (t + (q - t) % (36 - t)) :: digits bias fuel (place + 36) ((q - t) / (36 - t))

/-- The bias for numbers of about the size of `delta`. -/
def biasOf : (fuel : Nat) → (delta : Nat) → Nat
  | 0, _ => 0
  | fuel + 1, delta =>
    if delta ≤ 455 then 36 * delta / (delta + 38) else 36 + biasOf fuel (delta / 35)

/-- The bias after a distance, with so many characters written. -/
def adapt (delta written : Nat) (first : Bool) : Nat :=
  let delta := if first then delta / 700 else delta / 2
  biasOf (delta + 1) (delta + delta / written)

/-- How far the writing has come. -/
structure State where
  output : List Char
  delta : Nat := 0
  bias : Nat := 72
  written : Nat

/-- Passes a character of the label while those of one code are written. -/
def pass (basic code : Nat) (s : State) (c : Char) : State :=
  if c.toNat < code then { s with delta := s.delta + 1 }
  else if c.toNat = code then
    { output := s.output ++ digits s.bias (s.delta + 1) 36 s.delta
      delta := 0
      bias := adapt s.delta (s.written + 1) (s.written = basic)
      written := s.written + 1 }
  else s

/-- Writes the characters of each code; `next` is the least code not dealt with yet. -/
def writeCodes (label : List Char) (basic : Nat) : (next : Nat) → List Nat → State → State
  | _, [], s => s
  | next, code :: rest, s =>
    let s := label.foldl (pass basic code)
      { s with delta := s.delta + (code - next) * (s.written + 1) }
    writeCodes label basic (code + 1) rest { s with delta := s.delta + 1 }

/-- The label in ASCII, without the mark in front of it. -/
def encode (label : List Char) : List Char :=
  let basic := label.filter fun c => c.toNat < 0x80
  let codes := ((label.filter fun c => 0x80 ≤ c.toNat).map Char.toNat).mergeSort.eraseReps
  let start : State :=
    { output := if basic.isEmpty then [] else basic ++ ['-'], written := basic.length }
  (writeCodes label basic.length 0x80 codes start).output

/-- The number that a digit stands for. -/
def value? (c : Char) : Option Nat :=
  if 'a' ≤ c && c ≤ 'z' then some (c.toNat - 'a'.toNat)
  else if '0' ≤ c && c ≤ '9' then some (c.toNat - '0'.toNat + 26)
  else none

/-- The least number that is too large for a distance or a weight. -/
def limit : Nat := 0x100000000

/-- How far the reading has come: the characters found, the code that the last distance
led to, the place behind it, the distance so far, and the weight and the place of its next
digit. -/
structure Reading where
  found : List Char
  code : Nat := 0x80
  index : Nat := 0
  distance : Nat := 0
  weight : Nat := 1
  place : Nat := 36
  bias : Nat := 72

/-- Reads a digit.  The last one of a distance puts a character in its place. -/
def Reading.add? (r : Reading) (c : Char) : Option Reading := do
  let digit ← value? c
  let distance := r.distance + digit * r.weight
  if limit ≤ digit * r.weight || limit ≤ r.index + distance then none
  let t := threshold r.place r.bias
  let size := r.found.length + 1
  let code := r.code + (r.index + distance) / size
  let index := (r.index + distance) % size
  if digit < t then
    if code.isValidChar then
      return {
        found := r.found.take index ++ Char.ofNat code :: r.found.drop index
        code := code
        index := index + 1
        bias := adapt distance size (r.index = 0) }
    else none
  else if limit ≤ r.weight * (36 - t) then none
  else
    return { r with
      distance := distance
      weight := r.weight * (36 - t)
      place := r.place + 36 }

/-- The label that stands in ASCII, without the mark in front of it; what is read has to
end with a whole number. -/
def decode? (cs : List Char) : Option (List Char) := do
  let back := cs.reverse.takeWhile (· != '-')
  let front := cs.take (cs.length - back.length - 1)
  let digits := if front.isEmpty then cs else back.reverse
  let r ← digits.foldlM Reading.add? { found := front }
  if r.place = 36 then return r.found else none

end TaskConsole.Punycode
