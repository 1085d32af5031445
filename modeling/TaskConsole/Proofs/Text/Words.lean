import Mathlib.Data.List.SplitBy
import TaskConsole.Text.Blank

/-!
# The words of a text

No word of a text has a blank character (`Text.isBlank_of_mem_words`).  So of the blank characters
only spaces are left where a text is put on one line (`Text.eq_space_of_mem_singleLine`).
-/

namespace TaskConsole

/-- What is a member of joined lists is one of the separator or of a list. -/
theorem mem_of_mem_intercalate {α : Type} {a : α} {separator : List α} {parts : List (List α)}
    (h : a ∈ separator.intercalate parts) :
  a ∈ separator ∨ ∃ part ∈ parts, a ∈ part
  := by
  induction parts with
  | nil => exact (List.not_mem_nil h).elim
  | cons part parts ih =>
    cases parts with
    | nil =>
      rw [List.intercalate_singleton] at h
      exact .inr ⟨part, List.mem_cons_self, h⟩
    | cons next parts =>
      rw [List.intercalate_cons_cons, List.mem_append, List.mem_append] at h
      rcases h with (hpart | hseparator) | hrest
      · exact .inr ⟨part, List.mem_cons_self, hpart⟩
      · exact .inl hseparator
      · apply (ih hrest).imp_right
        rintro ⟨other, hother, hmem⟩
        exact ⟨other, List.mem_cons_of_mem _ hother, hmem⟩

/-- Where neighbours are alike, all are like the first. -/
theorem apply_eq_of_mem_run {α β : Type} {f : α → β} {first : α} {run : List α}
    (h : (first :: run).IsChain fun a b => f a = f b) {a : α} (ha : a ∈ first :: run) :
  f a = f first
  := by
  induction run generalizing first with
  | nil => rw [List.mem_singleton.mp ha]
  | cons next run ih =>
    obtain ⟨halike, hrest⟩ := List.isChain_cons_cons.mp h
    rcases List.mem_cons.mp ha with hfirst | hlater
    · rw [hfirst]
    · exact (ih hrest hlater).trans halike.symm

namespace Text

/-- No word of a text has a blank character. -/
theorem isBlank_of_mem_words {text word : String} (hword : word ∈ words text) {c : Char}
    (hc : c ∈ word.toList) :
  isBlank c = false
  := by
  obtain ⟨run, hrun, rfl⟩ := List.mem_map.mp hword
  obtain ⟨hsplit, hinked⟩ := List.mem_filter.mp hrun
  rw [String.toList_ofList] at hc
  rw [Bool.not_eq_true', List.all_eq_false] at hinked
  obtain ⟨ink, hink, hnot⟩ := hinked
  -- the characters of a run are alike, blank or not
  have halike : run.IsChain fun a b => isBlank a = isBlank b :=
    (List.isChain_of_mem_splitBy hsplit).imp fun _ _ => eq_of_beq
  obtain ⟨first, rest, rfl⟩ := List.exists_cons_of_ne_nil (List.ne_nil_of_mem hink)
  rw [apply_eq_of_mem_run halike hc, ← apply_eq_of_mem_run halike hink]
  exact Bool.eq_false_iff.mpr hnot

/-- Where a text is put on one line, its blank characters are spaces. -/
theorem eq_space_of_mem_singleLine {text : String} {c : Char} (hc : c ∈ (singleLine text).toList)
    (hblank : isBlank c = true) :
  c = ' '
  := by
  rw [singleLine, String.toList_intercalate] at hc
  rcases mem_of_mem_intercalate hc with hspace | ⟨part, hpart, hmem⟩
  · exact List.mem_singleton.mp hspace
  · obtain ⟨word, hword, rfl⟩ := List.mem_map.mp hpart
    rw [isBlank_of_mem_words hword hmem] at hblank
    cases hblank

end Text

end TaskConsole
