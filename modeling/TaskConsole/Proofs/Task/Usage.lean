import Mathlib.Order.MinMax
import TaskConsole.Task.Basic

/-!
# How full a window is

A sum of counts stops at the largest count, and so does a hundred times that sum.  Several stops
one after another come to the same as one (`Usage.toNat_totalTokens`), so what is shown of a window
is found by a single one (`Usage.contextPercent_eq`).  It therefore never shows too much, and grows
with what was used and shrinks with the window; but what is beyond the largest count is missing from
it where the window is so large that this shows (`Usage.contextPercent_exact_iff`).
-/

namespace TaskConsole

namespace Count

/-- The nearest count is the number itself, as far as counts go. -/
theorem toNat_clamp (n : Nat) :
  (clamp n).toNat = min n largest
  := by
  have hsize : min n largest < UInt64.size := Nat.lt_of_le_of_lt (min_le_right _ _) (by decide)
  rw [clamp, UInt64.toNat_ofNat_of_lt' hsize]

theorem toNat_add (a b : Count) :
  (a.add b).toNat = min (a.toNat + b.toNat) largest
  := toNat_clamp _

theorem toNat_scale (a b : Count) :
  (a.scale b).toNat = min (a.toNat * b.toNat) largest
  := toNat_clamp _

theorem toNat_pos {n : Count} (h : n ≠ 0) :
  0 < n.toNat
  := by
  apply Nat.pos_of_ne_zero
  intro hzero
  exact h (UInt64.toNat_inj.mp hzero)

end Count

namespace Usage

/-- The number of all tokens together, however large it is. -/
def tokens (u : Usage) : Nat :=
  u.input.toNat + u.output.toNat + u.cacheRead.toNat + u.cacheWrite.toNat

/-- The part of a window that tokens take, in percent, at most 100. -/
def percentOf (tokens window : Nat) : Nat := min 100 (100 * tokens / window)

/-- All tokens together are as many as there are, as far as counts go. -/
theorem toNat_totalTokens (u : Usage) :
  u.totalTokens.toNat = min u.tokens Count.largest
  := by
  simp only [totalTokens, tokens, Count.toNat_add]
  omega

/-- What is shown of a window is the percentage that a hundred times the tokens give, as far as
counts go. -/
theorem contextPercent_eq (u : Usage) {window : Count} (h : window ≠ 0) :
  u.contextPercent window = min 100 (min (100 * u.tokens) Count.largest / window.toNat)
  := by
  have hscaled : (Count.scale u.totalTokens 100).toNat = min (100 * u.tokens) Count.largest := by
    have hhundred : (100 : Count).toNat = 100 := by decide
    rw [Count.toNat_scale, toNat_totalTokens, hhundred]
    omega
  rw [contextPercent, if_neg h, hscaled]

/-- More tokens are not shown as a smaller part of a window. -/
theorem contextPercent_mono {u u' : Usage} (h : u.tokens ≤ u'.tokens) (window : Count) :
  u.contextPercent window ≤ u'.contextPercent window
  := by
  by_cases hzero : window = 0
  · rw [contextPercent, if_pos hzero]
    apply Nat.zero_le
  · rw [contextPercent_eq u hzero, contextPercent_eq u' hzero]
    apply min_le_min_left
    apply Nat.div_le_div_right
    apply min_le_min_right
    apply Nat.mul_le_mul_left _ h

/-- Tokens are not shown as a larger part of a larger window. -/
theorem contextPercent_anti (u : Usage) {window window' : Count} (hsome : window ≠ 0)
    (h : window ≤ window') :
  u.contextPercent window' ≤ u.contextPercent window
  := by
  have hpos := Count.toNat_pos hsome
  have hle : window.toNat ≤ window'.toNat := UInt64.le_iff_toNat_le.mp h
  have hsome' : window' ≠ 0 := by
    rintro rfl
    exact absurd hle (Nat.not_le_of_lt hpos)
  rw [contextPercent_eq u hsome, contextPercent_eq u hsome']
  apply min_le_min_left
  apply Nat.div_le_div_left hle hpos

/-- A part of a window in percent is the same, taken of a number or of what counts have room for of
it, exactly if the number is a count, or a hundred windows are, or the stop is lost in rounding. -/
theorem min_div_eq_iff {n limit window : Nat} (hsome : 0 < window) :
  min 100 (min n limit / window) = min 100 (n / window)
    ↔ n ≤ limit ∨ 100 * window ≤ limit ∨ n / window = limit / window
  := by
  by_cases hcount : n ≤ limit
  · rw [min_eq_left hcount]
    exact iff_of_true rfl (.inl hcount)
  · have hle : limit ≤ n := Nat.le_of_not_le hcount
    have hparts : limit / window ≤ n / window := Nat.div_le_div_right hle
    have hfull : 100 * window ≤ limit ↔ 100 ≤ limit / window :=
      (Nat.le_div_iff_mul_le hsome).symm
    rw [min_eq_right hle, hfull]
    omega

/-- Of a window that is not empty, the part that was used is shown in percent, down to a whole
number and at most 100, as far as a hundred times the tokens is a count: what is beyond the largest
count is missing.  So it is shown as it is exactly if a hundred times the tokens is a count, or a
hundred windows are, or the rest makes no difference to the whole number.  It is never shown larger
than it is, it does not go down as one of the four counts goes up, and it does not go up as the
window does. -/
theorem contextPercent_exact_iff (u : Usage) {window : Count} (h : window ≠ 0) :
  u.contextPercent window = min 100 (min (100 * u.tokens) Count.largest / window.toNat)
    ∧ (u.contextPercent window = percentOf u.tokens window.toNat
      ↔ 100 * u.tokens ≤ Count.largest ∨ 100 * window.toNat ≤ Count.largest
        ∨ 100 * u.tokens / window.toNat = Count.largest / window.toNat)
    ∧ u.contextPercent window ≤ percentOf u.tokens window.toNat
    ∧ (∀ u' : Usage, u.input ≤ u'.input → u.output ≤ u'.output → u.cacheRead ≤ u'.cacheRead →
        u.cacheWrite ≤ u'.cacheWrite → u.contextPercent window ≤ u'.contextPercent window)
    ∧ (∀ window', window ≤ window' → u.contextPercent window' ≤ u.contextPercent window)
  := by
  have hshown := contextPercent_eq u h
  have hpos := Count.toNat_pos h
  refine ⟨hshown, ?_, ?_, ?_, ?_⟩
  · rw [hshown]
    apply min_div_eq_iff hpos
  · rw [hshown]
    apply min_le_min_left
    apply Nat.div_le_div_right
    apply min_le_left
  · intro u' hinput houtput hread hwrite
    apply contextPercent_mono
    rw [UInt64.le_iff_toNat_le] at hinput houtput hread hwrite
    simp only [tokens]
    omega
  · intro window' hle
    apply contextPercent_anti u h hle

/-- Each of the four counts at its largest, in a window a hundred of which are just a count: it is
shown as full, which it is. -/
theorem contextPercent_exact_of_small_window :
  let u : Usage :=
    { input := 0xFFFFFFFFFFFFFFFF, output := 0xFFFFFFFFFFFFFFFF
      cacheRead := 0xFFFFFFFFFFFFFFFF, cacheWrite := 0xFFFFFFFFFFFFFFFF }
  let window : Count := 184467440737095516
  window ≠ 0 ∧ u.contextPercent window = 100
    ∧ u.contextPercent window = percentOf u.tokens window.toNat
  := by
  intro u window
  have hsome : window ≠ 0 := by decide
  obtain ⟨hshown, hexact, -⟩ := contextPercent_exact_iff u hsome
  use hsome
  constructor
  · rw [hshown]
    decide
  · apply hexact.mpr
    right
    left
    decide

/-- Half of the largest window, and all of it, are shown as a hundredth. -/
theorem contextPercent_of_largest_window :
  let half : Usage := { input := 0x8000000000000000 }
  let full : Usage := { input := 0xFFFFFFFFFFFFFFFF }
  let window : Count := 0xFFFFFFFFFFFFFFFF
  half.contextPercent window = 1 ∧ percentOf half.tokens window.toNat = 50
    ∧ full.contextPercent window = 1 ∧ percentOf full.tokens window.toNat = 100
  := by decide

end Usage

end TaskConsole
