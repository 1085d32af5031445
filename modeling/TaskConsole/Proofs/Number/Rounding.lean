import Mathlib.Algebra.Order.Field.Power
import Mathlib.Algebra.Order.Ring.Rat
import Mathlib.Tactic.FieldSimp
import Mathlib.Tactic.Linarith
import Mathlib.Tactic.Positivity
import Mathlib.Tactic.Ring
import TaskConsole.Number.Fixed

/-!
# Rounding

`roundEven` gives the natural number nearest to a quotient, and the even one of two
(`isNearest_roundEven`); `Dyadic.nearest` gives the same among the multiples of a power of two that
takes 53 bits (`Dyadic.isRounded_nearest`).  A larger number is therefore never rounded to a smaller
one (`IsNearest.mono`, `Dyadic.IsRounded.value_mono`), and 53 bits are off by a small part of the
number only (`Dyadic.IsRounded.abs_sub_le`).
-/

namespace TaskConsole.Number

/-- An error grows with the scale. -/
theorem abs_scaled_sub_le {x y error scale : ℚ} (hscale : 0 < scale) (h : |x - y| ≤ error) :
  |x * scale - y * scale| ≤ error * scale
  := by
  rw [← sub_mul, abs_mul, abs_of_pos hscale]
  gcongr

/-- A natural number is nearest to a rational one, and even if two are. -/
structure IsNearest (q : ℚ) (n : ℕ) : Prop where
  sub_half_le : (n : ℚ) - 1 / 2 ≤ q
  le_add_half : q ≤ n + 1 / 2
  even_of_sub : q = n - 1 / 2 → Even n
  even_of_add : q = n + 1 / 2 → Even n

theorem IsNearest.abs_sub_le {q : ℚ} {n : ℕ} (h : IsNearest q n) :
  |(n : ℚ) - q| ≤ 1 / 2
  := by
  have hlow := h.sub_half_le
  have hhigh := h.le_add_half
  rw [abs_le]
  constructor
  · linarith
  · linarith

/-- A larger number is not rounded to a smaller one. -/
theorem IsNearest.mono {q q' : ℚ} {n n' : ℕ} (h : IsNearest q n) (h' : IsNearest q' n')
    (hle : q ≤ q') :
  n ≤ n'
  := by
  by_contra hlt
  -- then both numbers are the one half way between the two, and both of these are even
  have hsucc : (n' : ℚ) + 1 ≤ n := by exact_mod_cast Nat.lt_of_not_le hlt
  have hlow := h.sub_half_le
  have hhigh := h'.le_add_half
  have heven : Even n := h.even_of_sub (by linarith)
  have heven' : Even n' := h'.even_of_add (by linarith)
  have hnext : n = n' + 1 := by
    have hcast : (n : ℚ) = n' + 1 := by linarith
    exact_mod_cast hcast
  rw [hnext, Nat.even_add_one] at heven
  exact heven heven'

theorem isNearest_of_abs_lt {q : ℚ} {n : ℕ} (h : |q - n| < 1 / 2) :
  IsNearest q n
  := by
  rw [abs_lt] at h
  constructor
  · linarith
  · linarith
  · intro heq
    linarith
  · intro heq
    linarith

theorem isNearest_half (n : ℕ) :
  IsNearest (n + 1 / 2) (n + n % 2)
  := by
  have hmod : ((n % 2 : ℕ) : ℚ) ≤ 1 := by exact_mod_cast Nat.le_of_lt_succ (Nat.mod_lt n two_pos)
  have hpos : (0 : ℚ) ≤ (n % 2 : ℕ) := Nat.cast_nonneg _
  have heven : Even (n + n % 2) := by
    rw [Nat.even_iff]
    omega
  constructor
  · push_cast
    linarith
  · push_cast
    linarith
  · exact fun _ => heven
  · exact fun _ => heven

/-- A quotient of natural numbers is rounded to the nearest one. -/
theorem isNearest_roundEven (num : ℕ) {den : ℕ} (hden : 0 < den) :
  IsNearest (num / den) (roundEven num den)
  := by
  have hpos : (0 : ℚ) < den := Nat.cast_pos.mpr hden
  have hnum : (num : ℚ) = den * (num / den : ℕ) + (num % den : ℕ) := by
    exact_mod_cast (Nat.div_add_mod num den).symm
  have hquotient : (num : ℚ) / den = (num / den : ℕ) + ((num % den : ℕ) : ℚ) / den := by
    rw [hnum]
    field_simp
  have hrest : ((num % den : ℕ) : ℚ) / den < 1 := by
    rw [div_lt_one hpos, Nat.cast_lt]
    apply Nat.mod_lt num hden
  have hrest' : 0 ≤ ((num % den : ℕ) : ℚ) / den := by positivity
  rw [hquotient, roundEven]
  split
  · next hless =>
    have hhalf : ((num % den : ℕ) : ℚ) / den < 1 / 2 := by
      rw [div_lt_div_iff₀ hpos two_pos]
      exact_mod_cast (by omega : num % den * 2 < 1 * den)
    apply isNearest_of_abs_lt
    rw [abs_lt]
    constructor
    · linarith
    · linarith
  split
  · next hsame =>
    have hhalf : ((num % den : ℕ) : ℚ) / den = 1 / 2 := by
      rw [div_eq_div_iff hpos.ne' two_ne_zero]
      exact_mod_cast (by omega : num % den * 2 = 1 * den)
    rw [hhalf]
    apply isNearest_half
  · next hless hsame =>
    have hhalf : 1 / 2 < ((num % den : ℕ) : ℚ) / den := by
      rw [div_lt_div_iff₀ two_pos hpos]
      exact_mod_cast (by omega : 1 * den < num % den * 2)
    apply isNearest_of_abs_lt
    rw [abs_lt]
    push_cast
    constructor
    · linarith
    · linarith

namespace Dyadic

/-- The number itself. -/
def value (d : Dyadic) : ℚ := d.mantissa * 2 ^ d.exponent

theorem pow_toNat_div (e : ℤ) :
  ((Nat.pow 2 e.toNat : ℕ) : ℚ) / (Nat.pow 2 (-e).toNat : ℕ) = 2 ^ e
  := by
  have he : (e.toNat : ℤ) - ((-e).toNat : ℤ) = e := Int.toNat_sub_toNat_neg e
  rw [Nat.pow_eq, Nat.pow_eq, Nat.cast_pow, Nat.cast_pow, Nat.cast_ofNat, ← zpow_natCast,
    ← zpow_natCast, ← zpow_sub₀ two_ne_zero, he]

theorem den_pos (d : Dyadic) :
  0 < d.den
  := Nat.pow_pos two_pos

theorem num_div_den (d : Dyadic) :
  (d.num : ℚ) / d.den = d.value
  := by
  rw [num, den, Nat.cast_mul, mul_div_assoc, pow_toNat_div, value]

/-- A dyadic number has a mantissa of 53 bits, before a carry, and is nearest to a number among the
multiples of its power of two. -/
structure IsRounded (q : ℚ) (d : Dyadic) : Prop where
  le : 2 ^ (d.exponent + 52) ≤ q
  lt : q < 2 ^ (d.exponent + 53)
  nearest : IsNearest (q / 2 ^ d.exponent) d.mantissa

/-- A quotient lies between the powers of two that the logarithms of its parts leave open. -/
theorem quotient_bounds {num den : ℕ} (hnum : num ≠ 0) (hden : den ≠ 0) :
  (2 : ℚ) ^ ((num.log2 : ℤ) - den.log2 - 1) ≤ num / den
    ∧ (num : ℚ) / den < 2 ^ ((num.log2 : ℤ) - den.log2 + 1)
  := by
  have hpos : (0 : ℚ) < den := Nat.cast_pos.mpr (Nat.pos_of_ne_zero hden)
  have hnumLow : (2 : ℚ) ^ (num.log2 : ℤ) ≤ num := by
    rw [zpow_natCast]
    exact_mod_cast Nat.log2_self_le hnum
  have hnumHigh : (num : ℚ) < 2 ^ ((num.log2 : ℤ) + 1) := by
    exact_mod_cast Nat.lt_log2_self
  have hdenLow : (2 : ℚ) ^ (den.log2 : ℤ) ≤ den := by
    rw [zpow_natCast]
    exact_mod_cast Nat.log2_self_le hden
  have hdenHigh : (den : ℚ) < 2 ^ ((den.log2 : ℤ) + 1) := by
    exact_mod_cast Nat.lt_log2_self
  constructor
  · rw [le_div_iff₀ hpos]
    calc (2 : ℚ) ^ ((num.log2 : ℤ) - den.log2 - 1) * den
      _ ≤ 2 ^ ((num.log2 : ℤ) - den.log2 - 1) * 2 ^ ((den.log2 : ℤ) + 1) := by gcongr
      _ = 2 ^ (num.log2 : ℤ) := by
        rw [← zpow_add₀ two_ne_zero]
        congr 1
        omega
      _ ≤ num := hnumLow
  · rw [div_lt_iff₀ hpos]
    calc (num : ℚ)
      _ < 2 ^ ((num.log2 : ℤ) + 1) := hnumHigh
      _ = 2 ^ ((num.log2 : ℤ) - den.log2 + 1) * 2 ^ (den.log2 : ℤ) := by
        rw [← zpow_add₀ two_ne_zero]
        congr 1
        omega
      _ ≤ 2 ^ ((num.log2 : ℤ) - den.log2 + 1) * den := by gcongr

/-- A quotient is compared with a power of two in natural numbers, whatever the sign of the exponent.
-/
theorem scaled_lt_iff (num : ℕ) {den : ℕ} (hden : den ≠ 0) (e : ℤ) :
  num * Nat.pow 2 (-e).toNat < den * Nat.pow 2 e.toNat ↔ (num : ℚ) / den < 2 ^ e
  := by
  have hpos : (0 : ℚ) < den := Nat.cast_pos.mpr (Nat.pos_of_ne_zero hden)
  have hpow : (0 : ℚ) < (Nat.pow 2 (-e).toNat : ℕ) := Nat.cast_pos.mpr (Nat.pow_pos two_pos)
  rw [← pow_toNat_div, div_lt_div_iff₀ hpos hpow, mul_comm _ (den : ℚ)]
  exact_mod_cast Iff.rfl

/-- So is it divided by one. -/
theorem scaled_div (num den : ℕ) (e : ℤ) :
  ((num * Nat.pow 2 (-e).toNat : ℕ) : ℚ) / (den * Nat.pow 2 e.toNat : ℕ) = num / den / 2 ^ e
  := by
  rw [← pow_toNat_div, Nat.cast_mul, Nat.cast_mul, mul_div_mul_comm, div_div_eq_mul_div,
    mul_div_assoc]

/-- The dyadic number nearest to a quotient is that. -/
theorem isRounded_nearest {num den : ℕ} (hnum : num ≠ 0) (hden : den ≠ 0) :
  IsRounded (num / den) (nearest num den)
  := by
  obtain ⟨hlow, hhigh⟩ := quotient_bounds hnum hden
  rw [nearest, if_neg hnum]
  generalize (num.log2 : ℤ) - den.log2 = guess at hlow hhigh ⊢
  simp only [scaled_lt_iff num hden, precision]
  -- the logarithms leave two powers of two open, and the comparison tells which of them it is
  have hbounds : ∃ below, (if (num : ℚ) / den < 2 ^ guess then guess - 1 else guess) = below
      ∧ (2 : ℚ) ^ below ≤ num / den ∧ (num : ℚ) / den < 2 ^ (below + 1) := by
    split
    · next hbelow =>
      use guess - 1, rfl, hlow
      rw [sub_add_cancel]
      exact hbelow
    · next hbelow => exact ⟨guess, rfl, not_lt.mp hbelow, hhigh⟩
  obtain ⟨below, hbelow, hle, hlt⟩ := hbounds
  rw [hbelow]
  constructor
  · have hexponent : below - ((53 - 1 : ℕ) : ℤ) + 52 = below := by omega
    rw [hexponent]
    exact hle
  · have hexponent : below - ((53 - 1 : ℕ) : ℤ) + 53 = below + 1 := by omega
    rw [hexponent]
    exact hlt
  · rw [← scaled_div]
    apply isNearest_roundEven
    apply Nat.mul_pos (Nat.pos_of_ne_zero hden) (Nat.pow_pos two_pos)

namespace IsRounded

variable {q q' : ℚ} {d d' : Dyadic}

/-- The mantissa has 53 bits, or is the next number after those that have. -/
theorem mantissa_bounds (h : IsRounded q d) :
  2 ^ 52 ≤ d.mantissa ∧ d.mantissa ≤ 2 ^ 53
  := by
  have hpow : (0 : ℚ) < 2 ^ d.exponent := by positivity
  have hle : (2 : ℚ) ^ 52 ≤ q / 2 ^ d.exponent := by
    rw [le_div_iff₀ hpow, ← zpow_natCast, ← zpow_add₀ two_ne_zero, add_comm]
    exact h.le
  have hlt : q / 2 ^ d.exponent ≤ 2 ^ 53 := by
    rw [div_le_iff₀ hpow, ← zpow_natCast, ← zpow_add₀ two_ne_zero, add_comm]
    exact h.lt.le
  -- the powers are whole numbers, so they are rounded to themselves
  have hlow : IsNearest (2 ^ 52 : ℕ) (2 ^ 52) := isNearest_of_abs_lt (by simp)
  have hhigh : IsNearest (2 ^ 53 : ℕ) (2 ^ 53) := isNearest_of_abs_lt (by simp)
  constructor
  · apply hlow.mono h.nearest
    exact_mod_cast hle
  · apply h.nearest.mono hhigh
    exact_mod_cast hlt

theorem value_pos (h : IsRounded q d) :
  0 < d.value
  := by
  have hmantissa : 0 < d.mantissa := Nat.lt_of_lt_of_le (by decide) h.mantissa_bounds.1
  rw [value]
  positivity

/-- A larger number is not rounded to a smaller one. -/
theorem value_mono (h : IsRounded q d) (h' : IsRounded q' d') (hle : q ≤ q') :
  d.value ≤ d'.value
  := by
  obtain hless | hsame | hmore := lt_trichotomy d.exponent d'.exponent
  · -- what 53 bits take at most of the one power is what they take at least of the next
    calc d.value
      _ = d.mantissa * 2 ^ d.exponent := rfl
      _ ≤ 2 ^ 53 * 2 ^ d.exponent := by
        gcongr
        exact_mod_cast h.mantissa_bounds.2
      _ = 2 ^ 52 * 2 ^ (d.exponent + 1) := by
        rw [zpow_add_one₀ two_ne_zero]
        ring
      _ ≤ 2 ^ 52 * 2 ^ d'.exponent := by
        gcongr
        · norm_num
        · omega
      _ ≤ d'.mantissa * 2 ^ d'.exponent := by
        gcongr
        exact_mod_cast h'.mantissa_bounds.1
      _ = d'.value := rfl
  · have hmantissa : d.mantissa ≤ d'.mantissa := by
      apply h.nearest.mono h'.nearest
      rw [hsame]
      gcongr
    rw [value, value, hsame]
    gcongr
  · -- the numbers themselves would be in the order of the powers
    have hpow : (2 : ℚ) ^ (d'.exponent + 53) ≤ 2 ^ (d.exponent + 52) := by
      apply zpow_le_zpow_right₀ one_le_two
      omega
    have hlt : q' < q := h'.lt.trans_le (hpow.trans h.le)
    exact absurd hle (not_le_of_gt hlt)

/-- The error of 53 bits is a small part of the number. -/
theorem abs_sub_le (h : IsRounded q d) :
  |d.value - q| ≤ q / 2 ^ 53
  := by
  have hpow : (0 : ℚ) < 2 ^ d.exponent := by positivity
  have hscaled := abs_scaled_sub_le hpow h.nearest.abs_sub_le
  rw [div_mul_cancel₀ _ hpow.ne'] at hscaled
  calc |d.value - q|
    _ ≤ 1 / 2 * 2 ^ d.exponent := hscaled
    _ = 2 ^ (d.exponent + 52) / 2 ^ 53 := by
      rw [zpow_add₀ two_ne_zero]
      norm_num
      ring
    _ ≤ q / 2 ^ 53 := by
      gcongr
      exact h.le

end IsRounded

/-- The quotient of a dyadic number and a natural one is rounded. -/
theorem isRounded_divNat {d : Dyadic} (hd : 0 < d.value) {n : ℕ} (hn : n ≠ 0) :
  IsRounded (d.value / n) (d.divNat n)
  := by
  have hnum : d.num ≠ 0 := by
    intro hzero
    rw [← num_div_den, hzero, Nat.cast_zero, zero_div] at hd
    exact lt_irrefl 0 hd
  have hquotient : d.value / n = (d.num : ℚ) / (d.den * n : ℕ) := by
    rw [← num_div_den, div_div, Nat.cast_mul]
  rw [hquotient]
  apply isRounded_nearest hnum (Nat.mul_ne_zero d.den_pos.ne' hn)

end Dyadic

end TaskConsole.Number
