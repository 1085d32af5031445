import TaskConsole.Number.Count
import TaskConsole.Number.Fixed

/-!
# Compact counts

`compact` shows a count in a few characters: plainly below a thousand, then in
thousands with one decimal place, then in millions.  The quotient is taken to 53 bits
before it is rounded to its decimal place.
-/

namespace TaskConsole.Number

/-- The quotient of a count and a unit, taken to 53 bits, with one decimal place. -/
def perUnit (n unit : Nat) : String :=
  ((Dyadic.nearest n 1).divNat unit).fixed 1

/-- A count in a few characters. -/
def compact (count : Count) : String :=
  let n := count.toNat
  if n < 1000 then toString n
  else if n < 1000000 then perUnit n 1000 ++ "k"
  else perUnit n 1000000 ++ "M"

end TaskConsole.Number
