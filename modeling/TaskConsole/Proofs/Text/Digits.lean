import Mathlib.Data.List.Basic
import Mathlib.Data.String.Basic
import Std.Data.String.ToNat

/-!
# Decimal digits

A number is written in digits and nothing else (`Text.isDigit_of_mem_digits`), so what stands in
front of it is known if the last sign there is no digit (`Text.eq_of_append_digits`).  A digit has no
lower case (`Text.toLower_digits`).
-/

namespace TaskConsole.Text

theorem isDigit_of_mem_digits {n : Nat} {c : Char} (h : c ∈ (toString n).toList) :
  c.isDigit = true
  := by
  rw [Nat.toString_eq_repr, Nat.repr_eq_ofList_toDigits, String.toList_ofList] at h
  apply Nat.isDigit_of_mem_toDigits (by decide) (by decide) h

/-- Lists that are equal up to the last occurrence of an element are equal before it and
behind it. -/
theorem eq_of_append_cons_eq {α : Type} {a : α} {xs ys xs' ys' : List α}
    (h : xs ++ a :: ys = xs' ++ a :: ys') (hys : a ∉ ys) (hys' : a ∉ ys') :
  xs = xs' ∧ ys = ys'
  := by
  -- were one of the lists before it longer, the element would occur behind it in the other
  rcases List.append_eq_append_iff.mp h with ⟨_ | ⟨z, zs⟩, hxs, hzs⟩ | ⟨_ | ⟨z, zs⟩, hxs, hzs⟩
  · exact ⟨by rw [hxs, List.append_nil], List.tail_eq_of_cons_eq hzs⟩
  · apply absurd _ hys
    rw [List.tail_eq_of_cons_eq hzs]
    apply List.mem_append_right _ List.mem_cons_self
  · exact ⟨by rw [hxs, List.append_nil], (List.tail_eq_of_cons_eq hzs).symm⟩
  · apply absurd _ hys'
    rw [List.tail_eq_of_cons_eq hzs]
    apply List.mem_append_right _ List.mem_cons_self

/-- A text that ends in a number behind some other sign tells the number and what stands in front. -/
theorem eq_of_append_digits {c : Char} (hc : c.isDigit = false) {xs ys : List Char} {m n : Nat}
    (h : xs ++ c :: (toString m).toList = ys ++ c :: (toString n).toList) :
  xs = ys ∧ m = n
  := by
  have hnot (k : Nat) : c ∉ (toString k).toList := by
    intro hmem
    rw [isDigit_of_mem_digits hmem] at hc
    cases hc
  obtain ⟨hfront, hdigits⟩ := eq_of_append_cons_eq h (hnot m) (hnot n)
  exact ⟨hfront, Nat.repr_injective (String.toList_injective hdigits)⟩

/-- A number is written in the same way in lower case. -/
theorem toLower_digits (n : Nat) :
  (toString n).toList.map Char.toLower = (toString n).toList
  := by
  have hsame : ∀ c ∈ (toString n).toList, c.toLower = id c := by
    intro c hc
    have hdigit := isDigit_of_mem_digits hc
    rw [Char.isDigit, Bool.and_eq_true, decide_eq_true_iff, decide_eq_true_iff] at hdigit
    apply dif_neg
    rintro ⟨hupper, -⟩
    exact absurd (Nat.le_trans hupper hdigit.2) (by decide)
  rw [List.map_congr_left hsame, List.map_id]

end TaskConsole.Text
