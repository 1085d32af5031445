/-!
# Fixed decimal places

`roundEven` divides to the nearest natural number, a half going to the even
neighbour.  `fixed` writes a quotient with a fixed number of decimal places, rounded
by it.  `Dyadic` is a number `mantissa * 2 ^ exponent`: `Dyadic.nearest` is the one
nearest to a quotient among those with at most 53 bits, and `Dyadic.ofFloat?` the
exact value of a finite float.
-/

namespace TaskConsole.Number

/-- The natural number nearest to `num / den`; a half goes to the even neighbour. -/
def roundEven (num den : Nat) : Nat :=
  let q := num / den
  let r := num % den
  if 2 * r < den then q
  else if 2 * r = den then q + q % 2
  else q + 1

/-- The digits of a natural number, padded in front with zeros to a width. -/
def padded (width n : Nat) : String :=
  let digits := toString n
  String.ofList (List.replicate (width - digits.length) '0') ++ digits

/-- The quotient `num / den` with `places` decimal places, at least one. -/
def fixed (places num den : Nat) : String :=
  let unit := Nat.pow 10 places
  let scaled := roundEven (num * unit) den
  s!"{scaled / unit}.{padded places (scaled % unit)}"

/-- The number `mantissa * 2 ^ exponent`. -/
structure Dyadic where
  mantissa : Nat
  exponent : Int
deriving DecidableEq, Inhabited

namespace Dyadic

/-- The numerator of a dyadic number over its denominator. -/
def num (d : Dyadic) : Nat := d.mantissa * Nat.pow 2 d.exponent.toNat

/-- The denominator of a dyadic number, a power of two. -/
def den (d : Dyadic) : Nat := Nat.pow 2 (-d.exponent).toNat

/-- The number of bits of a mantissa. -/
def precision : Nat := 53

/-- The dyadic number nearest to `num / den` whose mantissa has 53 bits, before a
carry; a half goes to the even mantissa. -/
def nearest (num den : Nat) : Dyadic :=
  if num = 0 then ⟨0, 0⟩
  else
    let guess : Int := (Nat.log2 num : Int) - Nat.log2 den
    let isBelow := num * Nat.pow 2 (-guess).toNat < den * Nat.pow 2 guess.toNat
    let below := if isBelow then guess - 1 else guess
    let exponent : Int := below - ((precision - 1 : Nat) : Int)
    ⟨roundEven (num * Nat.pow 2 (-exponent).toNat) (den * Nat.pow 2 exponent.toNat), exponent⟩

/-- The quotient of a dyadic number and a natural number, rounded to 53 bits. -/
def divNat (d : Dyadic) (n : Nat) : Dyadic := nearest d.num (d.den * n)

/-- The dyadic number with decimal places. -/
def fixed (places : Nat) (d : Dyadic) : String := Number.fixed places d.num d.den

/-- The sign and the absolute value of a float, unless it is infinite or no number. -/
def ofFloat? (x : Float) : Option (Bool × Dyadic) :=
  let bits := x.toBits.toNat
  let negative := decide (0x8000000000000000 ≤ bits)
  let biased : Nat := bits / 0x10000000000000 % 0x800
  let fraction : Nat := bits % 0x10000000000000
  if biased = 0x7FF then none
  else if biased = 0 then some (negative, ⟨fraction, -1074⟩)
  else some (negative, ⟨0x10000000000000 + fraction, (biased : Int) - 1075⟩)

end Dyadic

/-- A float with decimal places; the sign of a number that rounds to zero is kept. -/
def fixedFloat (places : Nat) (x : Float) : String :=
  match Dyadic.ofFloat? x with
  | some (true, d) => "-" ++ d.fixed places
  | some (false, d) => d.fixed places
  | none => if x.isNaN then "NaN" else if x < 0 then "-inf" else "inf"

end TaskConsole.Number
