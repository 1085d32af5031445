import Mathlib.Data.List.DropRight
import TaskConsole.Text.Truncate

/-!
# Texts within a budget

A text that is cut to a budget has so many characters, and one within it all of its own
(`Text.length_truncateEnd`, `Text.length_truncateStart`).  Apart from the ellipsis, they are
characters of the text.

What is cut at its start is cut at its end when it is read backwards, since the ellipsis is the same
in both directions (`Text.keepBack_eq`).  So a law of one cut is a law of the other: what was cut to
a budget is cut to a smaller one as if it were still whole, as long as the ellipsis of the first cut
stays out of what the second one keeps (`Text.keepFront_keepFront`).
-/

namespace TaskConsole.Text

section

variable (budget : Nat) (cs : List Char)

theorem length_keepFront :
  (keepFront budget cs).length = min budget cs.length
  := by
  have hellipsis : ellipsis.length = 3 := rfl
  rw [keepFront]
  split
  · omega
  split
  · rw [List.length_take]
  · rw [List.length_append, List.length_take]
    omega

theorem length_keepBack :
  (keepBack budget cs).length = min budget cs.length
  := by
  have hellipsis : ellipsis.length = 3 := rfl
  rw [keepBack]
  split
  · omega
  split
  · rw [List.length_drop]
    omega
  · rw [List.length_append, List.length_drop]
    omega

end

section

variable {budget : Nat} {cs : List Char}

/-- What is within the budget is kept. -/
theorem keepFront_of_le (h : cs.length ≤ budget) :
  keepFront budget cs = cs
  := if_pos h

theorem keepBack_of_le (h : cs.length ≤ budget) :
  keepBack budget cs = cs
  := if_pos h

/-- Of more than the budget, a budget beyond the ellipsis keeps what the ellipsis leaves. -/
theorem keepFront_of_lt (h : budget < cs.length) (hbudget : ellipsis.length < budget) :
  keepFront budget cs = cs.take (budget - ellipsis.length) ++ ellipsis
  := by
  rw [keepFront, if_neg (Nat.not_le_of_lt h), if_neg (Nat.not_le_of_lt hbudget)]

theorem keepBack_of_lt (h : budget < cs.length) (hbudget : ellipsis.length < budget) :
  keepBack budget cs = ellipsis ++ cs.rtake (budget - ellipsis.length)
  := by
  rw [keepBack, if_neg (Nat.not_le_of_lt h), if_neg (Nat.not_le_of_lt hbudget), List.rtake]

/-- Of more than the budget, any other budget keeps as many characters as it allows. -/
theorem keepFront_of_small (h : budget < cs.length) (hbudget : budget ≤ ellipsis.length) :
  keepFront budget cs = cs.take budget
  := by
  rw [keepFront, if_neg (Nat.not_le_of_lt h), if_pos hbudget]

theorem keepBack_of_small (h : budget < cs.length) (hbudget : budget ≤ ellipsis.length) :
  keepBack budget cs = cs.rtake budget
  := by
  rw [keepBack, if_neg (Nat.not_le_of_lt h), if_pos hbudget, List.rtake]

end

section

variable {budget : Nat} (cs : List Char)

/-- The places that the ellipsis leaves are those of the characters themselves. -/
theorem take_keepFront {kept : Nat} (h : kept + ellipsis.length ≤ budget
    ∨ kept ≤ budget ∧ budget ≤ ellipsis.length) :
  (keepFront budget cs).take kept = cs.take kept
  := by
  have hle : kept ≤ budget := by omega
  rw [keepFront]
  split
  · rfl
  · next hlong =>
    split
    · rw [List.take_take, Nat.min_eq_left hle]
    · have hkept : kept ≤ (cs.take (budget - ellipsis.length)).length := by
        rw [List.length_take]
        omega
      rw [List.take_append_of_le_length hkept, List.take_take]
      congr 1
      omega

/-- A cut to a budget and then to a smaller one is the cut to the smaller one, unless that one has
room for a part of the first ellipsis. -/
theorem keepFront_keepFront {smaller : Nat} (hle : smaller ≤ budget)
    (h : ellipsis.length < smaller ∨ smaller + ellipsis.length ≤ budget
      ∨ budget ≤ ellipsis.length) :
  keepFront smaller (keepFront budget cs) = keepFront smaller cs
  := by
  by_cases hwithin : cs.length ≤ budget
  · rw [keepFront_of_le hwithin]
  · have hlength : (keepFront budget cs).length = budget := by
      rw [length_keepFront]
      omega
    obtain rfl | hlt := Nat.eq_or_lt_of_le hle
    · apply keepFront_of_le
      rw [hlength]
    · -- both texts are too long for the smaller budget, so both are cut again
      have hcut : smaller < (keepFront budget cs).length := by omega
      have hcut' : smaller < cs.length := by omega
      obtain hbeyond | hsmall := Nat.lt_or_ge ellipsis.length smaller
      · rw [keepFront_of_lt hcut hbeyond, keepFront_of_lt hcut' hbeyond, take_keepFront]
        omega
      · rw [keepFront_of_small hcut hsmall, keepFront_of_small hcut' hsmall, take_keepFront]
        omega

/-- A cut at the start is a cut at the end of what is read backwards. -/
theorem keepBack_eq (budget : Nat) :
  keepBack budget cs = (keepFront budget cs.reverse).reverse
  := by
  have hellipsis : ellipsis.reverse = ellipsis := rfl
  rw [keepBack, keepFront, List.length_reverse]
  split
  · rw [List.reverse_reverse]
  split
  · rw [List.take_reverse, List.reverse_reverse]
  · rw [List.take_reverse, List.reverse_append, List.reverse_reverse, hellipsis]

/-- The same of cuts at the start. -/
theorem keepBack_keepBack {smaller : Nat} (hle : smaller ≤ budget)
    (h : ellipsis.length < smaller ∨ smaller + ellipsis.length ≤ budget
      ∨ budget ≤ ellipsis.length) :
  keepBack smaller (keepBack budget cs) = keepBack smaller cs
  := by
  rw [keepBack_eq, keepBack_eq, keepBack_eq, List.reverse_reverse, keepFront_keepFront _ hle h]

end

theorem toList_truncateEnd (text : String) (budget : Nat) :
  (truncateEnd text budget).toList = keepFront budget text.toList
  := String.toList_ofList

theorem toList_truncateStart (text : String) (budget : Nat) :
  (truncateStart text budget).toList = keepBack budget text.toList
  := String.toList_ofList

/-- The front of a text has no more characters than the budget allows. -/
theorem length_truncateEnd (text : String) (budget : Nat) :
  (truncateEnd text budget).length = min budget text.length
  := by
  rw [← String.length_toList, toList_truncateEnd, length_keepFront, String.length_toList]

/-- The back of a text has no more characters than the budget allows. -/
theorem length_truncateStart (text : String) (budget : Nat) :
  (truncateStart text budget).length = min budget text.length
  := by
  rw [← String.length_toList, toList_truncateStart, length_keepBack, String.length_toList]

/-- What the front of a text shows is the ellipsis or stands in the text. -/
theorem mem_of_mem_truncateEnd {text : String} {budget : Nat} {c : Char}
    (h : c ∈ (truncateEnd text budget).toList) :
  c ∈ text.toList ∨ c ∈ ellipsis
  := by
  rw [toList_truncateEnd, keepFront] at h
  split at h
  · exact .inl h
  split at h
  · exact .inl (List.mem_of_mem_take h)
  · apply (List.mem_append.mp h).imp_left
    exact List.mem_of_mem_take

/-- A text read backwards. -/
def backwards (text : String) : String := String.ofList text.toList.reverse

/-- A text within the budget is kept.  Of any other, there are as many characters as the budget
allows: for a budget beyond the ellipsis, the first ones with the ellipsis behind them, or the last
ones with the ellipsis in front; for a smaller one, the first or the last ones alone.  A second cut
to the same budget changes nothing, a cut at the start is a cut at the end of the text read
backwards, and a cut to a smaller budget does not depend on one made before, if the smaller budget
is beyond the ellipsis, or less than the budget by the ellipsis, or if the budget was not beyond the
ellipsis either. -/
theorem truncate_exact_and_stable (text : String) (budget : Nat) :
  (text.length ≤ budget → truncateEnd text budget = text ∧ truncateStart text budget = text)
    ∧ (budget < text.length →
      (truncateEnd text budget).length = budget ∧ (truncateStart text budget).length = budget)
    ∧ (budget < text.length → 3 < budget →
      truncateEnd text budget = String.ofList (text.toList.take (budget - 3)) ++ "..."
        ∧ truncateStart text budget = "..." ++ String.ofList (text.toList.rtake (budget - 3)))
    ∧ (budget < text.length → budget ≤ 3 →
      truncateEnd text budget = String.ofList (text.toList.take budget)
        ∧ truncateStart text budget = String.ofList (text.toList.rtake budget))
    ∧ truncateEnd (truncateEnd text budget) budget = truncateEnd text budget
    ∧ truncateStart (truncateStart text budget) budget = truncateStart text budget
    ∧ truncateStart text budget = backwards (truncateEnd (backwards text) budget)
    ∧ ∀ smaller ≤ budget, 3 < smaller ∨ smaller + 3 ≤ budget ∨ budget ≤ 3 →
      truncateEnd (truncateEnd text budget) smaller = truncateEnd text smaller
        ∧ truncateStart (truncateStart text budget) smaller = truncateStart text smaller
  := by
  have hend : ∀ smaller ≤ budget, 3 < smaller ∨ smaller + 3 ≤ budget ∨ budget ≤ 3 →
      truncateEnd (truncateEnd text budget) smaller = truncateEnd text smaller := by
    intro smaller hle h
    rw [truncateEnd, toList_truncateEnd, keepFront_keepFront _ hle h, truncateEnd]
  have hstart : ∀ smaller ≤ budget, 3 < smaller ∨ smaller + 3 ≤ budget ∨ budget ≤ 3 →
      truncateStart (truncateStart text budget) smaller = truncateStart text smaller := by
    intro smaller hle h
    rw [truncateStart, toList_truncateStart, keepBack_keepBack _ hle h, truncateStart]
  have hsame : 3 < budget ∨ budget + 3 ≤ budget ∨ budget ≤ 3 := by omega
  refine ⟨?_, ?_, ?_, ?_, hend budget le_rfl hsame, hstart budget le_rfl hsame, ?_, ?_⟩
  · intro h
    rw [← String.length_toList] at h
    rw [truncateEnd, truncateStart, keepFront_of_le h, keepBack_of_le h, String.ofList_toList]
    exact ⟨rfl, rfl⟩
  · intro h
    rw [length_truncateEnd, length_truncateStart, Nat.min_eq_left h.le]
    exact ⟨rfl, rfl⟩
  · intro h hbudget
    rw [← String.length_toList] at h
    rw [truncateEnd, truncateStart, keepFront_of_lt h hbudget, keepBack_of_lt h hbudget,
      String.ofList_append, String.ofList_append]
    exact ⟨rfl, rfl⟩
  · intro h hbudget
    rw [← String.length_toList] at h
    rw [truncateEnd, truncateStart, keepFront_of_small h hbudget, keepBack_of_small h hbudget]
    exact ⟨rfl, rfl⟩
  · rw [truncateStart, keepBack_eq, truncateEnd, backwards, String.toList_ofList, backwards,
      String.toList_ofList]
  · intro smaller hle h
    exact ⟨hend smaller hle h, hstart smaller hle h⟩

/-- A smaller budget that has room for a part of the first ellipsis shows it. -/
example :
  truncateEnd (truncateEnd "abcdef" 5) 3 = "ab." ∧ truncateEnd "abcdef" 3 = "abc"
  := by decide

end TaskConsole.Text
