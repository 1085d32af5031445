import Mathlib.Data.List.Basic
import Mathlib.Order.MinMax
import TaskConsole.Screen.SessionFrame

/-!
# The window on the prompt

The window on a line that is being typed has a cell for the cursor (`Prompt.column_lt`): it hides as
few characters in front as leave that cell.  Columns are kept modulo a number that no width reaches,
so the column of the cursor is its place behind what is hidden (`Prompt.column_eq`).  There the
window shows the character behind the cursor, or nothing yet at the end of the line.  As the cursor
goes on by one, the window hides one character more, or as many as before (`Prompt.hidden_succ`).
-/

namespace TaskConsole

namespace Prompt

/-- A cursor is never in front of its window. -/
theorem hidden_le {width : Nat} (hwidth : 0 < width) (cursor : Nat) :
  hidden width cursor ≤ cursor
  := by
  rw [hidden]
  omega

/-- A window hides at most one character more for a cursor that stands one character further. -/
theorem hidden_succ (width cursor : Nat) :
  hidden width cursor ≤ hidden width (cursor + 1)
    ∧ hidden width (cursor + 1) ≤ hidden width cursor + 1
  := by
  rw [hidden, hidden]
  omega

section

variable (chars : List Char) (cursor width : Nat)

theorem length_visible_le :
  (window chars cursor width).visible.length ≤ max width 1
  := by
  rw [window, List.length_take]
  apply min_le_left

/-- The place of the cursor behind what is hidden is within the width. -/
theorem place_lt :
  min cursor chars.length - hidden (max width 1) (min cursor chars.length) < max width 1
  := by
  have hsome : 0 < max width 1 := lt_max_of_lt_right Nat.one_pos
  rw [hidden]
  omega

/-- A window has a cell for the cursor. -/
theorem column_lt :
  (window chars cursor width).column < max width 1
  := by
  apply (Nat.mod_le _ _).trans_lt
  apply place_lt

section Narrow

variable {width} (hwidth : width < columnModulus)

include hwidth

/-- The column of the cursor is its place behind what is hidden. -/
theorem column_eq :
  (window chars cursor width).column
    = min cursor chars.length - hidden (max width 1) (min cursor chars.length)
  := by
  apply Nat.mod_eq_of_lt
  apply (place_lt chars cursor width).trans
  apply max_lt hwidth (by decide)

/-- The cell of the cursor shows the character behind it. -/
theorem getElem?_visible (h : cursor < chars.length) :
  (window chars cursor width).visible[(window chars cursor width).column]? = some chars[cursor]
  := by
  have hplace := place_lt chars cursor width
  have hsome : 0 < max width 1 := lt_max_of_lt_right Nat.one_pos
  have hbehind := Nat.add_sub_cancel' (hidden_le hsome cursor)
  rw [column_eq chars cursor hwidth]
  simp only [window, Nat.min_eq_left h.le] at hplace ⊢
  rw [List.getElem?_take_of_lt hplace, List.getElem?_drop, hbehind, List.getElem?_eq_getElem h]

/-- At the end of the line, the cell of the cursor is the one behind all that is shown. -/
theorem column_of_end (h : chars.length ≤ cursor) :
  (window chars cursor width).column = (window chars cursor width).visible.length
  := by
  have hplace := place_lt chars cursor width
  rw [column_eq chars cursor hwidth]
  simp only [window, Nat.min_eq_right h, List.length_take, List.length_drop] at hplace ⊢
  omega

end Narrow

end

/-- A window of some width, which counts as one at least, hides what a cursor, no further than the
end of the line, has in front of it beyond the width less one; it shows the next characters of the
line, as many as the width or all that are left.  The cursor is in the column of its place among
them: nothing of this number is lost, since it is below the width.  This is the column of the
character behind the cursor, and the first one without a character if the cursor is at the end.  As
the cursor moves by one character, the window moves by one at most. -/
theorem window_shows_cursor (text : String) (cursor : Nat) (width : UInt16) :
  let chars := text.toList
  let w := max width.toNat 1
  let c := min cursor chars.length
  let start (place : Nat) : Nat := (max 0 ((place : Int) + 1 - w)).toNat
  let shown := window chars cursor width.toNat
  (shown.visible = (chars.drop (start c)).take w ∧ shown.column = c - start c ∧ start c ≤ c)
    ∧ shown.column < w ∧ shown.visible.length ≤ w
    ∧ (∀ h : cursor < chars.length, shown.visible[shown.column]? = some chars[cursor])
    ∧ (chars.length ≤ cursor → shown.column = shown.visible.length)
    ∧ ∀ next ≤ chars.length, next = c + 1 ∨ c = next + 1 →
      (window chars next width.toNat).visible = (chars.drop (start next)).take w
        ∧ start next ≤ start c + 1 ∧ start c ≤ start next + 1
  := by
  intro chars w c start shown
  have hwidth : width.toNat < columnModulus := width.toNat_lt_size
  have hsome : 0 < w := lt_max_of_lt_right Nat.one_pos
  have hstart (place : Nat) : start place = hidden w place := by
    simp only [start, hidden]
    omega
  simp only [hstart]
  refine ⟨⟨rfl, column_eq chars cursor hwidth, hidden_le hsome c⟩, column_lt chars cursor _,
    length_visible_le chars cursor _, getElem?_visible chars cursor hwidth,
    column_of_end chars cursor hwidth, ?_⟩
  intro next hnext hmoved
  have hvisible : (window chars next width.toNat).visible = (chars.drop (hidden w next)).take w := by
    rw [window, Nat.min_eq_left hnext]
  use hvisible
  obtain rfl | hback := hmoved
  · have hsucc := hidden_succ w c
    omega
  · have hsucc := hidden_succ w next
    rw [← hback] at hsucc
    omega

/-- A line that has no room in front of a cursor at its end. -/
example :
  window "abcdefghij".toList 12 4 = ⟨"hij".toList, 3⟩ ∧ window "ab".toList 2 0 = ⟨[], 0⟩
  := by decide

end Prompt

/-- While the prompt has the keys, the cursor is on the screen, within the border of the input. -/
theorem Session.cursor?_within {s : Session} (hmode : s.mode = .input) {a : Area}
    (hwidth : inputPadding * 2 < a.width) (hheight : inputPadding < a.height) :
  ∃ x, s.cursor? a = some (x, a.y + inputPadding)
    ∧ a.x + inputPadding ≤ x ∧ x + inputPadding < a.x + a.width
  := by
  have hcolumn : (s.promptWindow a).column < max (max (a.width - inputPadding * 2) 1) 1 :=
    Prompt.column_lt _ _ _
  refine ⟨a.x + inputPadding + (s.promptWindow a).column, ?_, Nat.le_add_right _ _, ?_⟩
  · rw [cursor?, hmode, decide_eq_true hheight]
    rfl
  · omega

end TaskConsole
