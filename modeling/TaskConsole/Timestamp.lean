import TaskConsole.Text.Blank
import TaskConsole.Number.Fixed

/-!
# Timestamps

A `Timestamp` is a second of the Unix count with its nanoseconds; a leap second is
the second before it with more than a billion of them.  `Timestamp.parse?` reads a
date, a time and an offset: the parts may have blanks between them and fewer digits
than usual, but an offset has to be there.  `Timestamp.text` writes the moment in
UTC with the fewest of 0, 3, 6 or 9 decimal places, and `Timestamp.minute` writes it
up to the minute.
-/

namespace TaskConsole

/-- A moment in UTC. -/
structure Timestamp where
  second : Int
  nanos : Nat
deriving DecidableEq, Inhabited

/-- A day of the proleptic Gregorian calendar. -/
structure CivilDate where
  year : Int
  month : Nat
  day : Nat
deriving DecidableEq, Inhabited

namespace CivilDate

/-- Whether a year has a leap day. -/
def isLeap (year : Int) : Bool := year % 4 = 0 && (year % 100 != 0 || year % 400 = 0)

/-- The number of days of a month. -/
def monthLength (year : Int) (month : Nat) : Nat :=
  if month = 2 then if isLeap year then 29 else 28
  else if month = 4 || month = 6 || month = 9 || month = 11 then 30
  else 31

/-- Whether the calendar has the day, within the years that a timestamp can name. -/
def isValid (d : CivilDate) : Bool :=
  -262143 ≤ d.year && d.year ≤ 262142 && 1 ≤ d.month && d.month ≤ 12
    && 1 ≤ d.day && d.day ≤ monthLength d.year d.month

/-- The number of days from 1970-01-01.  Years are counted from March, so that the
leap day is the last one. -/
def toDays (d : CivilDate) : Int :=
  let y := if d.month ≤ 2 then d.year - 1 else d.year
  let era := y / 400
  let yearOfEra := y % 400
  let monthOfYear : Int := (d.month + 9) % 12
  let dayOfYear := (153 * monthOfYear + 2) / 5 + d.day - 1
  let dayOfEra := yearOfEra * 365 + yearOfEra / 4 - yearOfEra / 100 + dayOfYear
  era * 146097 + dayOfEra - 719468

/-- The day a number of days from 1970-01-01. -/
def ofDays (days : Int) : CivilDate :=
  let z := days + 719468
  let era := z / 146097
  let dayOfEra := z % 146097
  let yearOfEra := (dayOfEra - dayOfEra / 1460 + dayOfEra / 36524 - dayOfEra / 146096) / 365
  let dayOfYear := dayOfEra - (365 * yearOfEra + yearOfEra / 4 - yearOfEra / 100)
  let monthOfYear := (5 * dayOfYear + 2) / 153
  let day := dayOfYear - (153 * monthOfYear + 2) / 5 + 1
  let month := if monthOfYear < 10 then monthOfYear + 3 else monthOfYear - 9
  let year := yearOfEra + era * 400 + (if month ≤ 2 then 1 else 0)
  ⟨year, month.toNat, day.toNat⟩

/-- A year in four digits, with a sign if it needs one. -/
def yearText (year : Int) : String :=
  if year < 0 then "-" ++ Number.padded 4 year.natAbs
  else if year ≤ 9999 then Number.padded 4 year.natAbs
  else "+" ++ Number.padded 4 year.natAbs

/-- A day as year, month and day. -/
def text (d : CivilDate) : String :=
  s!"{yearText d.year}-{Number.padded 2 d.month}-{Number.padded 2 d.day}"

end CivilDate

namespace Timestamp

/-- The value of decimal digits. -/
def digitsValue (cs : List Char) : Nat :=
  cs.foldl (fun n c => n * 10 + (c.toNat - '0'.toNat)) 0

/-- Reads a number of at least one and at most `most` digits. -/
def number? (most : Nat) (cs : List Char) : Option (Nat × List Char) :=
  let digits := (cs.take most).takeWhile Char.isDigit
  if digits.isEmpty then none else some (digitsValue digits, cs.drop digits.length)

/-- Reads a number of at most two digits behind blanks. -/
def pair? (cs : List Char) : Option (Nat × List Char) :=
  number? 2 (Text.dropBlankStart cs)

/-- Reads a year: four digits, or any number of them behind a sign. -/
def year? (cs : List Char) : Option (Int × List Char) :=
  match Text.dropBlankStart cs with
  | '-' :: rest => (number? rest.length rest).map fun r => (-(r.1 : Int), r.2)
  | '+' :: rest => (number? rest.length rest).map fun r => ((r.1 : Int), r.2)
  | rest => (number? 4 rest).map fun r => ((r.1 : Int), r.2)

/-- Reads a character, behind blanks. -/
def mark? (c : Char) (cs : List Char) : Option (List Char) :=
  match Text.dropBlankStart cs with
  | d :: rest => if d = c then some rest else none
  | [] => none

/-- Reads decimal places as nanoseconds, if there is a point; digits behind the ninth
do not count. -/
def nanos? (cs : List Char) : Option (Nat × List Char) :=
  match cs with
  | '.' :: rest =>
    let digits := rest.takeWhile Char.isDigit
    let kept := digits.take 9
    if digits.isEmpty then none
    else some (digitsValue kept * Nat.pow 10 (9 - kept.length), rest.dropWhile Char.isDigit)
  | rest => some (0, rest)

/-- Reads two digits without blanks. -/
def twoDigits? : List Char → Option (Nat × List Char)
  | a :: b :: rest => if a.isDigit && b.isDigit then some (digitsValue [a, b], rest) else none
  | _ => none

/-- Reads the offset from UTC in seconds. -/
def offset? (cs : List Char) : Option (Int × List Char) :=
  let signed (negative : Bool) (cs : List Char) : Option (Int × List Char) := do
    let (hours, rest) ← twoDigits? cs
    let (minutes, rest) ← twoDigits? (rest.dropWhile fun c => c = ':' || Text.isBlank c)
    let seconds : Int := hours * 3600 + minutes * 60
    if minutes < 60 && hours < 24 then
      return (if negative then -seconds else seconds, rest)
    else none
  match cs with
  | 'Z' :: rest => some (0, rest)
  | 'z' :: rest => some (0, rest)
  | '+' :: rest => signed false rest
  | '-' :: rest => signed true rest
  | '−' :: rest => signed true rest
  | u :: t :: c :: rest =>
    if u.toUpper = 'U' && t.toUpper = 'T' && c.toUpper = 'C' then some (0, rest) else none
  | _ => none

/-- Reads a moment. -/
def parseChars? (cs : List Char) : Option Timestamp := do
  let (year, cs) ← year? cs
  let cs ← mark? '-' cs
  let (month, cs) ← pair? cs
  let cs ← mark? '-' cs
  let (day, cs) ← pair? cs
  let cs ← match cs with
    | 't' :: rest => some rest
    | 'T' :: rest => some rest
    | ' ' :: rest => some rest
    | _ => none
  let (hour, cs) ← pair? cs
  let cs ← mark? ':' cs
  let (minute, cs) ← pair? cs
  let cs ← mark? ':' cs
  let (second, cs) ← pair? cs
  let (nanos, cs) ← nanos? cs
  let (offset, cs) ← offset? (Text.dropBlankStart cs)
  let date : CivilDate := ⟨year, month, day⟩
  if (Text.dropBlankStart cs).isEmpty && date.isValid && hour < 24 && minute < 60
      && second ≤ 60 then
    let leap := second = 60
    let clock := hour * 3600 + minute * 60 + (if leap then 59 else second)
    let wall : Int := date.toDays * 86400 + clock
    let moment : Timestamp :=
      ⟨wall - offset, if leap then nanos + 1000000000 else nanos⟩
    if (CivilDate.ofDays (moment.second / 86400)).isValid then return moment else none
  else none

/-- The moment that a text names. -/
def parse? (text : String) : Option Timestamp := parseChars? text.toList

/-- The day of a moment. -/
def date (t : Timestamp) : CivilDate := CivilDate.ofDays (t.second / 86400)

/-- The hour of a moment. -/
def hour (t : Timestamp) : Nat := (t.second % 86400).toNat / 3600

/-- The minute of a moment. -/
def minuteOfHour (t : Timestamp) : Nat := (t.second % 3600).toNat / 60

/-- The decimal places of nanoseconds, in groups of three, as few as are exact. -/
def fractionText (nanos : Nat) : String :=
  if nanos = 0 then ""
  else if nanos % 1000000 = 0 then "." ++ Number.padded 3 (nanos / 1000000)
  else if nanos % 1000 = 0 then "." ++ Number.padded 6 (nanos / 1000)
  else "." ++ Number.padded 9 nanos

/-- A moment up to the minute. -/
def minute (t : Timestamp) : String :=
  s!"{t.date.text} {Number.padded 2 t.hour}:{Number.padded 2 t.minuteOfHour}"

/-- A moment in full. -/
def text (t : Timestamp) : String :=
  let extra := t.nanos / 1000000000
  let second := (t.second % 60).toNat + extra
  s!"{t.date.text}T{Number.padded 2 t.hour}:{Number.padded 2 t.minuteOfHour}"
    ++ s!":{Number.padded 2 second}{fractionText (t.nanos % 1000000000)}Z"

end Timestamp

end TaskConsole
