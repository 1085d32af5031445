import Mathlib.Algebra.Order.Ring.Abs
import TaskConsole.Number.Compact
import TaskConsole.Proofs.Number.Rounding
import TaskConsole.Proofs.Text.Digits

/-!
# What compact counts show

A compact count shows an `Amount`: the count itself, or a number of tenths of a thousand or of a
million.  Its text tells the amount (`Amount.text_injective`).  A larger count is not shown as a
smaller amount, since no rounding on the way turns the order around (`tenths_mono`).  The unit is
chosen by the count as it is and not by what is shown of it, so the largest counts below a million
are shown as a thousand thousands (`compact_canonical_iff`).
-/

namespace TaskConsole.Number

/-- What larger counts are counted in. -/
inductive Scale where
  | thousand
  | million
deriving DecidableEq

namespace Scale

/-- The number that is counted as one. -/
def size : Scale → ℕ
  | thousand => 1000
  | million => 1000000

/-- The sign behind the number. -/
def mark : Scale → Char
  | thousand => 'k'
  | million => 'M'

end Scale

/-- What a compact count shows. -/
inductive Amount where
  | plain (n : ℕ)
  | inTenths (tenths : ℕ) (scale : Scale)
deriving DecidableEq

namespace Amount

/-- The number itself, or the number with one decimal place and its unit. -/
def text : Amount → String
  | plain n => toString n
  | inTenths tenths scale =>
    toString (tenths / 10) ++ "." ++ toString (tenths % 10) ++ String.singleton scale.mark

/-- The count that is shown. -/
def value : Amount → ℚ
  | plain n => n
  | inTenths tenths scale => tenths * scale.size / 10

theorem value_plain (n : ℕ) :
  (plain n).value = n
  := rfl

/-- What is counted as one. -/
def unit : Amount → ℕ
  | plain _ => 1
  | inTenths _ scale => scale.size

/-- The number is below a thousand, one decimal place included, unless it counts millions; with a
unit, it is at least one. -/
def IsCanonical : Amount → Prop
  | plain n => n < 1000
  | inTenths tenths .thousand => 10 ≤ tenths ∧ tenths < 10000
  | inTenths tenths .million => 10 ≤ tenths

/-- The characters of a number with a unit. -/
theorem toList_text_inTenths (tenths : ℕ) (scale : Scale) :
  (inTenths tenths scale).text.toList
    = ((toString (tenths / 10)).toList ++ '.' :: (toString (tenths % 10)).toList) ++ [scale.mark]
  := by
  simp only [text, String.toList_append, String.toList_singleton, List.append_assoc]
  rfl

theorem not_isDigit_mark (scale : Scale) :
  scale.mark.isDigit = false
  := by
  cases scale with
  | thousand => rfl
  | million => rfl

theorem text_plain_ne (n tenths : ℕ) (scale : Scale) :
  (plain n).text ≠ (inTenths tenths scale).text
  := by
  intro h
  have hmem : scale.mark ∈ (toString n).toList := by
    have hlast : scale.mark ∈ (inTenths tenths scale).text.toList := by
      rw [toList_text_inTenths]
      apply List.mem_append_right _ (List.mem_singleton_self _)
    rw [← h] at hlast
    exact hlast
  have hdigit := Text.isDigit_of_mem_digits hmem
  rw [not_isDigit_mark] at hdigit
  cases hdigit

theorem mark_injective {scale scale' : Scale} (h : scale.mark = scale'.mark) :
  scale = scale'
  := by
  cases scale with
  | thousand => cases scale' with
    | thousand => rfl
    | million => exact absurd h (by decide)
  | million => cases scale' with
    | thousand => exact absurd h (by decide)
    | million => rfl

/-- The text of an amount tells the amount. -/
theorem text_injective {x y : Amount} (h : x.text = y.text) :
  x = y
  := by
  cases x with
  | plain m => cases y with
    | plain n => rw [Nat.repr_injective h]
    | inTenths tenths scale => exact absurd h (text_plain_ne m tenths scale)
  | inTenths tenths scale => cases y with
    | plain n => exact absurd h.symm (text_plain_ne n tenths scale)
    | inTenths tenths' scale' =>
      have hchars := congrArg String.toList h
      rw [toList_text_inTenths, toList_text_inTenths] at hchars
      obtain ⟨hnumber, hmark⟩ := List.append_inj' hchars rfl
      obtain ⟨hwhole, hrest⟩ := Text.eq_of_append_digits rfl hnumber
      have hwhole' := Nat.repr_injective (String.toList_injective hwhole)
      have htenths : tenths = tenths' := by omega
      rw [htenths, mark_injective (List.head_eq_of_cons_eq hmark)]

end Amount

/-- The number of tenths of a unit that a count is shown as. -/
def tenths (n unit : ℕ) : ℕ :=
  let d := (Dyadic.nearest n 1).divNat unit
  roundEven (d.num * 10) d.den

theorem padded_one {n : ℕ} (h : n < 10) :
  padded 1 n = toString n
  := by
  have hlength : (toString n).length = 1 := by
    rw [Nat.toString_eq_repr, Nat.repr_of_lt h, String.length_singleton]
  rw [padded, hlength]
  apply String.empty_append

theorem perUnit_eq (n unit : ℕ) :
  perUnit n unit = toString (tenths n unit / 10) ++ "." ++ toString (tenths n unit % 10)
  := by
  have hdigit : tenths n unit % 10 < 10 := Nat.mod_lt _ (by decide)
  rw [← padded_one hdigit]
  rfl

/-- What a count is shown as. -/
def shown (n : ℕ) : Amount :=
  if n < 1000 then .plain n
  else if n < 1000000 then .inTenths (tenths n 1000) .thousand
  else .inTenths (tenths n 1000000) .million

theorem compact_eq (count : Count) :
  compact count = (shown count.toNat).text
  := by
  rw [compact, shown]
  split
  · rfl
  split
  · rw [perUnit_eq]
    rfl
  · rw [perUnit_eq]
    rfl

section Tenths

variable {n unit : ℕ} (hn : n ≠ 0) (hunit : unit ≠ 0)

include hn hunit

/-- A count is rounded to 53 bits, and so is its quotient by the unit, before the tenths of this are
counted. -/
theorem exists_isNearest_tenths :
  ∃ x d, Dyadic.IsRounded n x ∧ Dyadic.IsRounded (x.value / unit) d
    ∧ IsNearest (d.value * 10) (tenths n unit)
  := by
  have hcount : Dyadic.IsRounded n (Dyadic.nearest n 1) := by
    have hrounded := Dyadic.isRounded_nearest hn one_ne_zero
    rw [Nat.cast_one, div_one] at hrounded
    exact hrounded
  refine ⟨_, _, hcount, Dyadic.isRounded_divNat hcount.value_pos hunit, ?_⟩
  have hscaled (d : Dyadic) : d.value * 10 = ((d.num * 10 : ℕ) : ℚ) / d.den := by
    rw [Nat.cast_mul, mul_div_right_comm, Dyadic.num_div_den]
    rfl
  rw [hscaled]
  apply isNearest_roundEven _ (Dyadic.den_pos _)

/-- A larger count is not shown as fewer tenths. -/
theorem tenths_mono {n' : ℕ} (h : n ≤ n') :
  tenths n unit ≤ tenths n' unit
  := by
  have hn' : n' ≠ 0 := by omega
  obtain ⟨x, d, hx, hd, htenths⟩ := exists_isNearest_tenths hn hunit
  obtain ⟨x', d', hx', hd', htenths'⟩ := exists_isNearest_tenths hn' hunit
  have hvalue : x.value ≤ x'.value := hx.value_mono hx' (by exact_mod_cast h)
  have hquotient : d.value ≤ d'.value := by
    apply hd.value_mono hd'
    gcongr
  apply htenths.mono htenths'
  gcongr

/-- The tenths of a unit are those of the count, up to a half and to what 53 bits take. -/
theorem abs_tenths_sub_le :
  |(tenths n unit : ℚ) * unit / 10 - n| ≤ (unit : ℚ) / 20 + n / 2 ^ 51
  := by
  obtain ⟨x, d, hx, hd, htenths⟩ := exists_isNearest_tenths hn hunit
  have hpos : (0 : ℚ) < unit := Nat.cast_pos.mpr (Nat.pos_of_ne_zero hunit)
  have hcount := hx.abs_sub_le
  have hquotient := abs_scaled_sub_le hpos hd.abs_sub_le
  rw [div_mul_cancel₀ _ hpos.ne', div_right_comm, div_mul_cancel₀ _ hpos.ne'] at hquotient
  have htenth := abs_scaled_sub_le hpos htenths.abs_sub_le
  rw [abs_le] at hcount hquotient htenth ⊢
  have hsmall : (0 : ℚ) < n := by exact_mod_cast Nat.pos_of_ne_zero hn
  constructor
  · linarith
  · linarith

end Tenths

/-- Counts below a million are shown with one thousand at least, and with a thousand of them if that
is nearer than any number of tenths below. -/
theorem tenths_thousand {n : ℕ} (h : 1000 ≤ n) (hbelow : n < 1000000) :
  10 ≤ tenths n 1000 ∧ tenths n 1000 ≤ 10000 ∧ (tenths n 1000 < 10000 ↔ n < 999950)
  := by
  have hn : n ≠ 0 := by omega
  have hfirst : tenths 1000 1000 = 10 := by decide +kernel
  have hlast : tenths 999949 1000 = 9999 := by decide +kernel
  have hrounded : tenths 999950 1000 = 10000 := by decide +kernel
  have hend : tenths 1000000 1000 = 10000 := by decide +kernel
  refine ⟨?_, ?_, ?_, ?_⟩
  · rw [← hfirst]
    apply tenths_mono (by decide) (by decide) h
  · rw [← hend]
    apply tenths_mono hn (by decide) hbelow.le
  · contrapose!
    intro hle
    rw [← hrounded]
    apply tenths_mono (by decide) (by decide) hle
  · intro hlt
    apply Nat.lt_succ_of_le
    rw [← hlast]
    apply tenths_mono hn (by decide)
    omega

theorem tenths_million {n : ℕ} (h : 1000000 ≤ n) :
  10 ≤ tenths n 1000000
  := by
  have hfirst : tenths 1000000 1000000 = 10 := by decide +kernel
  rw [← hfirst]
  apply tenths_mono (by decide) (by decide) h

theorem shown_plain {n : ℕ} (h : n < 1000) :
  shown n = .plain n
  := if_pos h

theorem shown_thousand {n : ℕ} (h : 1000 ≤ n) (hbelow : n < 1000000) :
  shown n = .inTenths (tenths n 1000) .thousand
  := by
  rw [shown, if_neg (Nat.not_lt_of_le h), if_pos hbelow]

theorem shown_million {n : ℕ} (h : 1000000 ≤ n) :
  shown n = .inTenths (tenths n 1000000) .million
  := by
  have hlarge : ¬ n < 1000 := by omega
  rw [shown, if_neg hlarge, if_neg (Nat.not_lt_of_le h)]

theorem value_inTenths_mono {tenths tenths' : ℕ} (h : tenths ≤ tenths') (scale : Scale) :
  (Amount.inTenths tenths scale).value ≤ (Amount.inTenths tenths' scale).value
  := by
  simp only [Amount.value]
  gcongr

/-- Each kind of amounts begins where the one before it ends. -/
theorem value_shown_bounds (n : ℕ) :
  (n < 1000 → (shown n).value ≤ 1000)
    ∧ (1000 ≤ n → 1000 ≤ (shown n).value)
    ∧ (n < 1000000 → (shown n).value ≤ 1000000)
    ∧ (1000000 ≤ n → 1000000 ≤ (shown n).value)
  := by
  have hthousand : (Amount.inTenths 10 .thousand).value = 1000 := by
    norm_num [Amount.value, Scale.size]
  have hthousands : (Amount.inTenths 10000 .thousand).value = 1000000 := by
    norm_num [Amount.value, Scale.size]
  have hmillion : (Amount.inTenths 10 .million).value = 1000000 := by
    norm_num [Amount.value, Scale.size]
  obtain hplain | hlarge := Nat.lt_or_ge n 1000
  · have hvalue : (shown n).value ≤ 1000 := by
      rw [shown_plain hplain, Amount.value_plain]
      exact_mod_cast hplain.le
    refine ⟨fun _ => hvalue, by omega, fun _ => ?_, by omega⟩
    linarith
  obtain hbelow | habove := Nat.lt_or_ge n 1000000
  · obtain ⟨hlow, hhigh, -⟩ := tenths_thousand hlarge hbelow
    rw [shown_thousand hlarge hbelow, ← hthousands, ← hthousand]
    have hlow' := value_inTenths_mono hlow .thousand
    have hhigh' := value_inTenths_mono hhigh .thousand
    exact ⟨by omega, fun _ => hlow', fun _ => hhigh', by omega⟩
  · have hvalue : 1000000 ≤ (shown n).value := by
      rw [shown_million habove, ← hmillion]
      apply value_inTenths_mono (tenths_million habove)
    refine ⟨by omega, fun _ => ?_, by omega, fun _ => hvalue⟩
    linarith

/-- A larger count is shown as no less. -/
theorem value_shown_mono {n n' : ℕ} (h : n ≤ n') :
  (shown n).value ≤ (shown n').value
  := by
  obtain ⟨hplain, -, hbelow, -⟩ := value_shown_bounds n
  obtain ⟨-, hlarge, -, habove⟩ := value_shown_bounds n'
  obtain hn' | hn' := Nat.lt_or_ge n' 1000
  · rw [shown_plain hn', shown_plain (h.trans_lt hn'), Amount.value_plain, Amount.value_plain]
    exact_mod_cast h
  obtain hn | hn := Nat.lt_or_ge n 1000
  · exact (hplain hn).trans (hlarge hn')
  have hpos : n ≠ 0 := by omega
  obtain hm' | hm' := Nat.lt_or_ge n' 1000000
  · rw [shown_thousand hn' hm', shown_thousand hn (h.trans_lt hm')]
    apply value_inTenths_mono (tenths_mono hpos (by decide) h)
  obtain hm | hm := Nat.lt_or_ge n 1000000
  · exact (hbelow hm).trans (habove hm')
  · rw [shown_million hm, shown_million hm']
    apply value_inTenths_mono (tenths_mono hpos (by decide) h)

/-- A larger count is shown in no smaller unit. -/
theorem unit_shown_mono {n n' : ℕ} (h : n ≤ n') :
  (shown n).unit ≤ (shown n').unit
  := by
  have hunit (m : ℕ) :
      (shown m).unit = if m < 1000 then 1 else if m < 1000000 then 1000 else 1000000 := by
    rw [shown]
    split
    · rfl
    split
    · rfl
    · rfl
  rw [hunit, hunit]
  split_ifs
  all_goals omega

/-- What is shown of a count is off by half a tenth of the unit, and by what 53 bits are off by. -/
theorem abs_value_shown_sub_le (n : ℕ) :
  |(shown n).value - n| ≤ ((shown n).unit : ℚ) / 20 + n / 2 ^ 51
  := by
  rw [shown]
  split
  · rw [Amount.value_plain, sub_self, abs_zero]
    positivity
  have hn : n ≠ 0 := by omega
  split
  · apply abs_tenths_sub_le hn (by decide)
  · apply abs_tenths_sub_le hn (by decide)

/-- The amount is canonical unless it is a thousand thousands. -/
theorem isCanonical_shown_iff (n : ℕ) :
  (shown n).IsCanonical ↔ n < 999950 ∨ 1000000 ≤ n
  := by
  obtain hplain | hlarge := Nat.lt_or_ge n 1000
  · rw [shown_plain hplain]
    apply iff_of_true hplain
    omega
  obtain hbelow | habove := Nat.lt_or_ge n 1000000
  · obtain ⟨hlow, -, hlast⟩ := tenths_thousand hlarge hbelow
    rw [shown_thousand hlarge hbelow, Amount.IsCanonical, hlast, and_iff_right hlow,
      or_iff_left (Nat.not_le_of_lt hbelow)]
  · rw [shown_million habove]
    apply iff_of_true (tenths_million habove)
    exact .inr habove

/-- A compact count shows one amount.  It is the count itself below a thousand, a number of tenths of
a thousand below a million, from one thousand to a thousand of them, and a number of tenths of a
million from there on, at least one million.  So the amount is canonical except for the counts that
are below a million by fifty at most, which are shown as a thousand thousands.  It is the count, up
to half a tenth of the unit and what rounding to 53 bits takes; and a larger count is shown as no
less, in no smaller unit. -/
theorem compact_canonical_iff (count : Count) :
  ∃ x : Amount, compact count = x.text ∧ (∀ y : Amount, compact count = y.text → y = x)
    ∧ (count.toNat < 1000 → x = .plain count.toNat)
    ∧ (1000 ≤ count.toNat → count.toNat < 1000000 →
      ∃ tenths, x = .inTenths tenths .thousand ∧ 10 ≤ tenths ∧ tenths ≤ 10000)
    ∧ (1000000 ≤ count.toNat → ∃ tenths, x = .inTenths tenths .million ∧ 10 ≤ tenths)
    ∧ (x.IsCanonical ↔ count.toNat < 999950 ∨ 1000000 ≤ count.toNat)
    ∧ |x.value - count.toNat| ≤ (x.unit : ℚ) / 20 + count.toNat / 2 ^ 51
    ∧ ∀ count' : Count, count ≤ count' →
      ∃ y : Amount, compact count' = y.text ∧ x.value ≤ y.value ∧ x.unit ≤ y.unit
  := by
  use shown count.toNat, compact_eq count
  refine ⟨?_, shown_plain, ?_, ?_, ?_, abs_value_shown_sub_le _, ?_⟩
  · intro y hy
    apply Amount.text_injective
    rw [← hy, compact_eq]
  · intro h hbelow
    obtain ⟨hlow, hhigh, -⟩ := tenths_thousand h hbelow
    exact ⟨_, shown_thousand h hbelow, hlow, hhigh⟩
  · intro h
    exact ⟨_, shown_million h, tenths_million h⟩
  · apply isCanonical_shown_iff
  · intro count' h
    have hle := UInt64.le_iff_toNat_le.mp h
    exact ⟨_, compact_eq count', value_shown_mono hle, unit_shown_mono hle⟩

/-- Counts just below a million are shown as a thousand thousands, which is not canonical. -/
theorem compact_of_nearly_a_million :
  compact 999950 = "1000.0k" ∧ compact 999999 = "1000.0k" ∧ compact 1000000 = "1.0M"
    ∧ ¬ ∃ x : Amount, compact 999950 = x.text ∧ x.IsCanonical
  := by
  have hshown : compact 999950 = (Amount.inTenths 10000 .thousand).text := by decide +kernel
  refine ⟨by decide +kernel, by decide +kernel, by decide +kernel, ?_⟩
  rintro ⟨x, htext, hcanonical⟩
  obtain rfl := Amount.text_injective (hshown.symm.trans htext)
  exact absurd hcanonical.2 (by decide)

end TaskConsole.Number
