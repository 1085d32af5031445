import Mathlib.Data.List.DropRight
import TaskConsole.Text.Blank

/-!
# Trimmed texts

A trimmed text has no blank characters at its ends (`dropBlank_ends`): trimming it again
changes nothing, and unless it is empty it shows something.
-/

namespace TaskConsole.Text

/-- Dropping the blank characters at the back is what the library calls so. -/
theorem dropBlankEnd_eq (cs : List Char) :
  dropBlankEnd cs = cs.rdropWhile isBlank
  := rfl

/-- Without the blank characters at its ends, a list does not begin with one. -/
theorem dropBlankStart_trimmed (cs : List Char) :
  dropBlankStart (dropBlankEnd (dropBlankStart cs)) = dropBlankEnd (dropBlankStart cs)
  := by
  simp only [dropBlankStart, dropBlankEnd_eq]
  rw [List.dropWhile_eq_self_iff]
  intro hlength
  have hfront : (cs.dropWhile isBlank).rdropWhile isBlank <+: cs.dropWhile isBlank := by
    apply List.rdropWhile_prefix
  rw [hfront.getElem hlength]
  apply List.dropWhile_get_zero_not

/-- Trimming twice is trimming. -/
theorem trim_trim (text : String) :
  trim (trim text) = trim text
  := by
  rw [trim, trim, String.toList_ofList, dropBlankStart_trimmed, dropBlankEnd_eq, dropBlankEnd_eq,
    List.rdropWhile_idempotent]

/-- Trimming leaves nothing of a text exactly if it is blank. -/
theorem isEmpty_trim (text : String) :
  (trim text).isEmpty = isBlankText text
  := by
  rw [Bool.eq_iff_iff, String.isEmpty_iff, ← String.toList_eq_nil_iff, trim, String.toList_ofList,
    dropBlankEnd_eq, List.rdropWhile_eq_nil_iff, dropBlankStart, ← List.dropWhile_eq_nil_iff,
    List.dropWhile_idempotent, List.dropWhile_eq_nil_iff, isBlankText, List.all_eq_true]

/-- A trimmed text that is not empty has a character that is not blank. -/
theorem isBlankText_trim {text : String} (h : (trim text).isEmpty = false) :
  isBlankText (trim text) = false
  := by
  rw [← isEmpty_trim, trim_trim, h]

end TaskConsole.Text
