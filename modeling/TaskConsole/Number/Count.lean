/-!
# Counts

A `Count` is a number of 64 bits.  Its sum (`Count.add`) and product (`Count.scale`)
stop at the largest count instead of starting again from zero.
-/

namespace TaskConsole

/-- A number of 64 bits. -/
abbrev Count := UInt64

namespace Count

/-- The largest count. -/
def largest : Nat := 0xFFFFFFFFFFFFFFFF

/-- The count nearest to a natural number. -/
def clamp (n : Nat) : Count := UInt64.ofNat (min n largest)

/-- The sum of two counts, or the largest count if the sum is larger. -/
def add (a b : Count) : Count := clamp (a.toNat + b.toNat)

/-- The product of two counts, or the largest count if the product is larger. -/
def scale (a b : Count) : Count := clamp (a.toNat * b.toNat)

/-- The decimal digits of a count. -/
def text (n : Count) : String := toString n.toNat

/-- The count that a natural number is, if it has at most 64 bits. -/
def ofNat? (n : Nat) : Option Count :=
  if n ≤ largest then some (UInt64.ofNat n) else none

end Count

end TaskConsole
