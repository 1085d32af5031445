import TaskConsole.Key
import TaskConsole.Text.Utf8

/-!
# The keyboard

A terminal in raw mode tells of its keys in bytes: a character by its UTF-8, a control
key by a control character, and any other key by a sequence behind an escape.
`Keyboard.feed` finds the key presses in the bytes as they come.  An escape at the end of
what has come is the escape key; any other beginning waits for the rest.
-/

namespace TaskConsole.Keyboard

/-- What bytes at the front of the input are. -/
inductive Reading where
  /-- The beginning of something. -/
  | incomplete
  /-- Something complete that is no key. -/
  | other
  /-- Nothing that could become a key. -/
  | broken
  | key (press : KeyPress)
deriving DecidableEq

/-- A key on its own. -/
def plain (code : KeyCode) : Reading := .key { code := code }

/-- The character of a byte of ASCII. -/
def charOf (b : UInt8) : Char := Char.ofNat b.toNat

/-- The byte that begins a sequence. -/
def escape : UInt8 := 27

/-- The key that a letter at the end of a sequence names. -/
def lettered? (c : Char) : Option KeyCode :=
  if c = 'A' then some .up
  else if c = 'B' then some .down
  else if c = 'C' then some .right
  else if c = 'D' then some .left
  else if c = 'F' then some .toEnd
  else if c = 'H' then some .home
  else if c = 'P' then some (.function 1)
  else if c = 'Q' then some (.function 2)
  else if c = 'R' then some (.function 3)
  else if c = 'S' then some (.function 4)
  else none

/-- The key that a number in a sequence names. -/
def numbered? (n : Nat) : Option KeyCode :=
  if n = 1 || n = 7 then some .home
  else if n = 2 then some .insert
  else if n = 3 then some .delete
  else if n = 4 || n = 8 then some .toEnd
  else if n = 5 then some .pageUp
  else if n = 6 then some .pageDown
  else if 11 ≤ n && n ≤ 15 then some (.function (n - 10))
  else if 17 ≤ n && n ≤ 21 then some (.function (n - 11))
  else if 23 ≤ n && n ≤ 26 then some (.function (n - 12))
  else if 28 ≤ n && n ≤ 29 then some (.function (n - 15))
  else if 31 ≤ n && n ≤ 34 then some (.function (n - 17))
  else none

/-- The keys of a keypad, in the order of their codes. -/
def keypad : List KeyCode :=
  "0123456789./*-+".toList.map .char ++
    [.enter, .char '=', .char ',', .left, .right, .up, .down, .pageUp, .pageDown, .home, .toEnd,
      .insert, .delete]

/-- The code of the first key of the keypad. -/
def keypadCode : Nat := 57399

/-- The key that a code names: a character by its own code, and a key that types none by
one that is private to no script. -/
def coded? (n : Nat) : Option KeyCode :=
  if keypadCode ≤ n && n < keypadCode + keypad.length then keypad[n - keypadCode]?
  else if n = 57358 then some .capsLock
  else if 57359 ≤ n && n ≤ 57363 then some (.silent n)
  else if 57376 ≤ n && n ≤ 57398 then some (.function (n - 57363))
  else if 57427 ≤ n && n ≤ 57454 then some (.silent n)
  else if n = 27 then some .escape
  else if n = 13 then some .enter
  else if n = 9 then some .tab
  else if n = 127 then some .backspace
  else if n.isValidChar then some (.char (Char.ofNat n))
  else none

/-- The number below a bound that digits write, perhaps behind a plus sign. -/
def number? (bound : Nat) (text : String) : Option Nat :=
  let digits := if text.toList.head? = some '+' then text.toList.tail else text.toList
  let value := digits.foldl (fun n c => 10 * n + (c.toNat - '0'.toNat)) 0
  if !digits.isEmpty && digits.all Char.isDigit && value < bound then some value else none

/-- The fields of a sequence lie between its semicolons, and the parts of a field between
its colons. -/
abbrev Fields := List (List String)

/-- The fields of bytes; `none` for bytes that are no text. -/
def fields? (bytes : List UInt8) : Option Fields :=
  (Utf8.decode? bytes).map fun text => (text.splitOn ";").map (·.splitOn ":")

/-- How a key was struck: with which of the modifiers that matter, and what happened to
it. -/
structure Stroke where
  shift : Bool := false
  control : Bool := false
  motion : KeyMotion := .press

/-- The stroke of a number of modifiers, of which one less holds them as bits. -/
def Stroke.ofModifiers (modifiers : Nat) : Stroke :=
  { shift := (modifiers - 1) % 2 = 1, control := (modifiers - 1) / 4 % 2 = 1 }

/-- What a number says to have happened to a key. -/
def motionOf : Option Nat → KeyMotion
  | some 2 => .repeated
  | some 3 => .release
  | _ => .press

/-- The stroke that the front field tells: the modifiers, and perhaps what happened. -/
def stroke? : Fields → Option Stroke
  | (modifiers :: happened) :: _ =>
    (number? 256 modifiers).map fun n =>
      { Stroke.ofModifiers n with motion := motionOf (happened.head?.bind (number? 256)) }
  | _ => none

/-- A key that was struck so. -/
def struck (code : KeyCode) (stroke : Stroke) : Reading :=
  .key { code := code, control := stroke.control, motion := stroke.motion }

/-- What a sequence is that ends in a tilde: its first field is the number of a key, and
has no other part. -/
def tildeSequence : Fields → Reading
  | [first] :: rest =>
    match (number? 256 first).bind numbered? with
    | some code => struck code ((stroke? rest).getD {})
    | none => .broken
  | _ => .broken

/-- What a sequence is that ends in a letter: the letter names the key, and the second
field tells the stroke.  Without one the digit in front of the letter does. -/
def cursorSequence (inner : List UInt8) (fields : Fields) (last : Char) : Reading :=
  match lettered? last, stroke? fields.tail with
  | none, _ => .broken
  | some code, some stroke => struck code stroke
  | some code, none =>
    match (inner.getLast?.map charOf).filter Char.isDigit with
    | some digit => struck code (Stroke.ofModifiers (digit.toNat - '0'.toNat))
    | none => .broken

/-- The stroke of a modifier key counts that key as held. -/
def Stroke.holding (stroke : Stroke) : KeyCode → Stroke
  | .silent n =>
    { stroke with
      shift := stroke.shift || n = 57441 || n = 57447
      control := stroke.control || n = 57442 || n = 57448 }
  | _ => stroke

/-- What a sequence is that ends in a small u: its first field holds the code of a key and
perhaps that of the character which the key types with shift. -/
def codeSequence : Fields → Reading
  | (first :: others) :: rest =>
    match (number? 0x100000000 first).bind coded? with
    | none => .broken
    | some code =>
      let stroke := ((stroke? rest).getD {}).holding code
      let code := if code = .tab && stroke.shift then .backTab else code
      let shifted := (others.head?.bind (number? 0x100000000)).filter Nat.isValidChar
      match shifted with
      | some n => struck (if stroke.shift then .char (Char.ofNat n) else code) stroke
      | none => struck code stroke
  | _ => .broken

/-- The beginning and the end of a text that is pasted. -/
def pasteMarks : List UInt8 × List UInt8 :=
  (Utf8.encode "[200~", Utf8.encode "\x1b[201~")

/-- What a sequence that begins with a number is, given the bytes in front of its last
one.  A text that is pasted is no key. -/
def numberedSequence (inner : List UInt8) (last : UInt8) : Reading :=
  let all := 91 :: inner ++ [last]
  if pasteMarks.1.isPrefixOf all then
    if pasteMarks.2.isSuffixOf all then .other else .incomplete
  else
    match fields? inner with
    | none => .broken
    | some fields =>
      let last := charOf last
      if last = '~' then tildeSequence fields
      else if last = 'u' then codeSequence fields
      else if last = 'M' || last = 'R' then .other
      else cursorSequence inner fields last

/-- What bytes behind an escape and a bracket are. -/
def bracketSequence (bytes : List UInt8) : Reading :=
  match bytes with
  | [] => .incomplete
  | b :: rest =>
    let c := charOf b
    let last := charOf (bytes.getLastD b)
    if c = '[' then
      match rest with
      | [] => .incomplete
      | d :: _ => if 65 ≤ d && d ≤ 69 then plain (.function (d.toNat - 64)) else .broken
    else if c = 'Z' then plain .backTab
    else if c = 'I' || c = 'O' then .other
    else if c = 'M' then if rest.length < 3 then .incomplete else .other
    else if c = '<' then if last = 'M' || last = 'm' then .other else .incomplete
    else if c = '?' then
      if last = 'c' || (last = 'u' && 1 < rest.length) then .other else .incomplete
    else if c.isDigit then
      if rest.isEmpty || last.toNat < 64 || 126 < last.toNat then .incomplete
      else numberedSequence bytes.dropLast (bytes.getLastD b)
    else if c = 'R' then .broken
    else
      match lettered? c with
      | some code => plain code
      | none => .broken

/-- What bytes behind an escape and the letter O are. -/
def letterSequence : List UInt8 → Reading
  | [] => .incomplete
  | b :: _ =>
    match lettered? (charOf b) with
    | some code => plain code
    | none => .broken

/-- The number of bytes of the character that a byte begins; 0 if it begins none. -/
def widthOf (b : UInt8) : Nat :=
  if b < 0x80 then 1
  else if b < 0xC0 then 0
  else if b < 0xE0 then 2
  else if b < 0xF0 then 3
  else if b < 0xF8 then 4
  else 0

/-- What bytes that begin with no escape are. -/
def character (b : UInt8) (rest : List UInt8) : Reading :=
  if b = 13 then plain .enter
  else if b = 9 then plain .tab
  else if b = 127 then plain .backspace
  else if b = 0 then .key { code := .char ' ', control := true }
  else if b ≤ 26 then .key { code := .char (Char.ofNat (b.toNat + 96)), control := true }
  else if b < 32 then .key { code := .char (Char.ofNat (b.toNat + 24)), control := true }
  else if widthOf b = 0 || !rest.all Utf8.isTail then .broken
  else if rest.length + 1 < widthOf b then .incomplete
  else
    match Utf8.decode? (b :: rest) with
    | some text =>
      match text.toList with
      | [c] => plain (.char c)
      | _ => .broken
    | none => .broken

/-- What bytes are; `more` says that others have come behind them.  A key behind an
escape is that key with another modifier, which changes nothing. -/
def read (more : Bool) : List UInt8 → Reading
  | [] => .incomplete
  | b :: rest =>
    if b = escape then
      match rest with
      | [] => if more then .incomplete else plain .escape
      | c :: tail =>
        if c = 79 then letterSequence tail
        else if c = 91 then bracketSequence tail
        else if c = escape then plain .escape
        else read more rest
    else character b rest

/-- Takes bytes that have come behind those that wait: the key presses, and the bytes
that wait still. -/
def feed (waiting : List UInt8) : List UInt8 → List KeyPress × List UInt8
  | [] => ([], waiting)
  | b :: rest =>
    let bytes := waiting ++ [b]
    match read (!rest.isEmpty) bytes with
    | .incomplete => feed bytes rest
    | .other => feed [] rest
    | .broken => feed [] rest
    | .key press =>
      let (presses, waiting) := feed [] rest
      (press :: presses, waiting)

end TaskConsole.Keyboard
