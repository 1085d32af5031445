import TaskConsole.Proofs.Conversation.Feed
import TaskConsole.Proofs.Styled.BlankRows

/-!
# Line feeds in wrapped lines

How a line is broken hangs on its characters other than line feeds.  A line that does not fit is
broken as if it had no line feeds (`Line.wrap_withoutFeeds`), while one that fits is kept with
those that it has.  So without its line feeds a line has rows of the same text exactly if it has
none, or does not fit (`Line.wrap_feedless_iff`).
-/

namespace TaskConsole

/-- The span without its line feeds. -/
def Span.withoutFeeds (span : Span) : Span :=
  { span with text := String.ofList (span.text.toList.filter fun c => c != '\n') }

namespace Line

/-- The line without the line feeds of its spans. -/
def withoutFeeds (line : Line) : Line :=
  { line with spans := line.spans.map Span.withoutFeeds }

/-- Without its line feeds, a line has the cells that it shows. -/
theorem cells_withoutFeeds (line : Line) :
  line.withoutFeeds.cells = line.shown
  := by
  rw [shown, cells, cells, withoutFeeds, List.flatMap_map, List.filter_flatMap]
  apply List.flatMap_congr
  intro span _
  rw [Span.withoutFeeds, String.toList_ofList, List.filter_map]
  rfl

theorem shown_withoutFeeds (line : Line) :
  line.withoutFeeds.shown = line.shown
  := by
  rw [shown, cells_withoutFeeds]
  apply line.filter_of_subset_shown (List.Subset.refl _)

/-- A text has a line feed where a cell has one. -/
theorem feed_mem_text_iff (line : Line) :
  '\n' ∈ line.text.toList ↔ line.shown ≠ line.cells
  := by
  rw [toList_text, List.mem_map, shown, ne_eq, List.filter_eq_self]
  simp

/-- Lines of the same cells have the same text. -/
theorem text_eq_iff (line line' : Line) :
  line.text = line'.text ↔ line.cells.map Prod.fst = line'.cells.map Prod.fst
  := by
  rw [← String.toList_inj, toList_text, toList_text]

section

variable (line : Line) {width : Nat}

/-- A line that fits is kept as it is. -/
theorem wrap_of_le (h : line.shown.length ≤ max width 1) :
  line.wrap width = [line]
  := if_pos h

/-- A line that does not fit is broken as if it had no line feeds. -/
theorem wrap_withoutFeeds (h : max width 1 < line.shown.length) :
  line.withoutFeeds.wrap width = line.wrap width
  := by
  rw [wrap, wrap]
  have hcells : line.withoutFeeds.cells.filter (fun cell => cell.1 != '\n')
      = line.cells.filter fun cell => cell.1 != '\n' := line.shown_withoutFeeds
  have hlong : ¬(line.cells.filter fun cell => cell.1 != '\n').length ≤ max width 1 :=
    Nat.not_le.mpr h
  rw [hcells, if_neg hlong, if_neg hlong]
  rfl

end

/-- However wide, the rows of a line show the cells of the rows that it has without its line feeds.
A row has a line feed exactly if the line has one and fits; if it does not fit, the rows are the
same.  So they have the same text exactly if the line has no line feed or does not fit. -/
theorem wrap_feedless_iff (line : Line) (width : UInt16) :
  let columns := max width.toNat 1
  let rows := line.wrap width.toNat
  let feedless := line.withoutFeeds.wrap width.toNat
  rows.map shown = feedless.map cells
    ∧ (columns < line.shown.length → rows = feedless)
    ∧ (∀ row ∈ rows,
      '\n' ∈ row.text.toList ↔ '\n' ∈ line.text.toList ∧ line.shown.length ≤ columns)
    ∧ (rows.map text = feedless.map text
      ↔ '\n' ∉ line.text.toList ∨ columns < line.shown.length)
  := by
  intro columns rows feedless
  have hcap : width.toNat ≤ Wrap.columnCap := Nat.le_of_lt_succ width.toNat_lt
  by_cases hfits : line.shown.length ≤ columns
  · have hrows : rows = [line] := line.wrap_of_le hfits
    have hfeedless : feedless = [line.withoutFeeds] := by
      apply wrap_of_le
      rw [shown_withoutFeeds]
      exact hfits
    rw [hrows, hfeedless]
    refine ⟨?_, ?_, ?_, ?_⟩
    · rw [List.map_singleton, List.map_singleton, cells_withoutFeeds]
    · intro hlong
      exact absurd hfits (Nat.not_le.mpr hlong)
    · intro row hrow
      rw [List.mem_singleton.mp hrow]
      exact (and_iff_left hfits).symm
    · rw [or_iff_left (Nat.not_lt.mpr hfits), List.map_singleton, List.map_singleton,
        List.singleton_inj, text_eq_iff, cells_withoutFeeds, feed_mem_text_iff, not_not]
      constructor
      · -- what is left of the cells has their number only if it is all of them
        intro htext
        apply List.filter_sublist.eq_of_length
        have hlength := congrArg List.length htext
        rw [List.length_map, List.length_map] at hlength
        exact hlength.symm
      · intro hsame
        rw [hsame]
  · have hlong : columns < line.shown.length := Nat.not_le.mp hfits
    have hsame : rows = feedless := (line.wrap_withoutFeeds hlong).symm
    have hshown : ∀ row ∈ rows, row.shown = row.cells :=
      fun row hrow => line.shown_of_mem_wrap hcap hlong hrow
    rw [← hsame]
    refine ⟨List.map_congr_left hshown, fun _ => rfl, ?_, ?_⟩
    · intro row hrow
      apply iff_of_false
      · rw [feed_mem_text_iff, not_not]
        exact hshown row hrow
      · rintro ⟨-, hle⟩
        exact hfits hle
    · exact iff_of_true rfl (.inr hlong)

/-- Not all rows have the text that they have without line feeds: a line that fits keeps the line
feed that the service put into a message, also as a row of the feed. -/
theorem exists_row_with_feed :
  (¬∀ (line : Line) (width : UInt16),
      (line.wrap width.toNat).map text = (line.withoutFeeds.wrap width.toNat).map text
        ∧ ∀ row ∈ line.wrap width.toNat, '\n' ∉ row.text.toList)
    ∧ ((ofText "a\nb").wrap 5).map text = ["a\nb"]
    ∧ ((ofText "a\nb").withoutFeeds.wrap 5).map text = ["ab"]
    ∧ (Feed.layout {} 80 [⟨"error-1", .notice ⟨.generic, "a\nb", []⟩⟩]).map text = ["✗ a\nb"]
  := by
  refine ⟨?_, by decide +kernel, by decide +kernel, by decide +kernel⟩
  intro h
  obtain ⟨-, hfeeds⟩ := h (ofText "a\nb") 5
  have hrow := hfeeds (ofText "a\nb") (by decide +kernel)
  revert hrow
  decide +kernel

end Line

end TaskConsole
