/-!
# Hexadecimal digits

`hexDigit` and `hexValue?` take a number below sixteen to its digit and back; capital
digits are read as well, and `hexCapital` writes them.
-/

namespace TaskConsole.Number

/-- The hexadecimal digit of a number below sixteen. -/
def hexDigit (n : Nat) : Char :=
  if n < 10 then Char.ofNat ('0'.toNat + n) else Char.ofNat ('a'.toNat + (n - 10))

/-- The capital hexadecimal digit of a number below sixteen. -/
def hexCapital (n : Nat) : Char := (hexDigit n).toUpper

/-- The value of a hexadecimal digit. -/
def hexValue? (c : Char) : Option Nat :=
  if '0' ≤ c && c ≤ '9' then some (c.toNat - '0'.toNat)
  else if 'a' ≤ c && c ≤ 'f' then some (c.toNat - 'a'.toNat + 10)
  else if 'A' ≤ c && c ≤ 'F' then some (c.toNat - 'A'.toNat + 10)
  else none

end TaskConsole.Number
