import TaskConsole.Proofs.Conversation.Feed
import TaskConsole.Proofs.Screen.Row
import TaskConsole.Proofs.Styled.BlankRows
import TaskConsole.Proofs.Text.Columns

/-!
# The columns of the feed

The screen cuts a line where a cluster goes beyond its last column, so it shows the whole line
exactly if that has no more columns than the screen (`Grid.fit_eq_self_iff`).  Rows of the feed have
no more characters than the screen has columns, which is enough where none of them takes more than
one; but it is not where characters are wide (`Feed.rows_within_breadth`).
-/

namespace TaskConsole

namespace Line

/-- The columns of a line on the screen. -/
def columns (line : Line) : Nat :=
  (line.spans.map fun span => Text.columns span.text.toList).sum

/-- The columns that the characters of a line, apart from line feeds, are counted for. -/
def breadth (line : Line) : Nat :=
  (line.shown.map fun cell => Text.breadth cell.1).sum

/-- A line takes no more columns than its characters are counted for. -/
theorem columns_le_breadth (line : Line) :
  line.columns ≤ line.breadth
  := by
  obtain ⟨spans, style⟩ := line
  rw [columns, breadth, shown, cells]
  induction spans with
  | nil => exact le_rfl
  | cons span spans ih =>
    have hspan : ((span.text.toList.map fun c => (c, span.style)).filter
          fun cell => cell.1 != '\n').map (fun cell => Text.breadth cell.1)
        = (span.text.toList.filter fun c => c != '\n').map Text.breadth := by
      rw [List.filter_map, List.map_map]
      rfl
    rw [List.map_cons, List.sum_cons, List.flatMap_cons, List.filter_append, List.map_append,
      List.sum_append, hspan]
    exact Nat.add_le_add (Text.columns_le _) ih

theorem breadth_le (line : Line) :
  line.breadth ≤ 3 * line.shown.length
  := by
  rw [breadth, ← List.length_map (f := fun cell => Text.breadth cell.1), Nat.mul_comm]
  apply List.sum_le_card_nsmul
  intro columns hcolumns
  obtain ⟨cell, -, rfl⟩ := List.mem_map.mp hcolumns
  apply Text.breadth_le

/-- Where no character takes more than one column, each is counted for one. -/
theorem breadth_of_narrow {line : Line} (h : ∀ cell ∈ line.shown, Text.breadth cell.1 = 1) :
  line.breadth = line.shown.length
  := by
  rw [breadth, List.map_congr_left h, List.map_const', List.sum_replicate_nat, Nat.mul_one]

/-- A line that repeats one character, which joins no other, has so many times its columns. -/
theorem columns_of_repeated {c : Char} (hc : Text.clusterClass c = .other) {line : Line}
    (h : ∀ cell ∈ line.cells, cell.1 = c) :
  line.columns = line.cells.length * Text.columnsOf [c]
  := by
  rw [cells] at h
  rw [columns, cells]
  generalize line.spans = spans at h
  induction spans with
  | nil => exact (Nat.zero_mul _).symm
  | cons span spans ih =>
    rw [List.flatMap_cons, List.forall_mem_append] at h
    obtain ⟨hspan, hspans⟩ := h
    have htext : span.text.toList = List.replicate span.text.toList.length c := by
      rw [List.eq_replicate_iff]
      exact ⟨rfl, fun d hd => hspan (d, span.style) (List.mem_map_of_mem hd)⟩
    have hcolumns : Text.columns span.text.toList
        = span.text.toList.length * Text.columnsOf [c] := by
      conv_lhs => rw [htext]
      apply Text.columns_replicate hc
    rw [List.map_cons, List.sum_cons, ih hspans, hcolumns, List.flatMap_cons, List.length_append,
      List.length_map, Nat.add_mul]

end Line

/-! ### The screen -/

namespace Grid

/-- What is written for a line has its columns, in whatever style. -/
theorem glyphColumns_glyphs (base : Style) (line : Line) :
  glyphColumns (glyphs base line) = line.columns
  := by
  rw [glyphColumns_eq, map_fst_glyphs, Text.sumColumns, Text.clustersOf, List.flatMap_def,
    List.map_flatten, List.sum_flatten, List.map_map, List.map_map, List.map_map]
  rfl

/-- All clusters are shown exactly if there are columns enough for them. -/
theorem fit_eq_self_iff {width used : Nat} (hused : used ≤ width) (glyphs : List Glyph) :
  fit width used glyphs = glyphs ↔ used + glyphColumns glyphs ≤ width
  := by
  constructor
  · intro hall
    have hfits := glyphColumns_fit glyphs hused
    rwa [hall] at hfits
  · intro hfits
    have hall := fit_append hfits []
    rwa [List.append_nil, fit, List.append_nil] at hall

end Grid

/-! ### Rows -/

open Wrap

/-- A row of a wrapped line has no more characters than the width. -/
theorem Line.length_shown_le (line : Line) {width : Nat} (hcap : width ≤ columnCap) {row : Line}
    (hrow : row ∈ line.wrap width) :
  row.shown.length ≤ max width 1
  := by
  obtain ⟨hcolumns, -⟩ := columns_bounds hcap
  obtain ⟨pieces, hbroken, hrows⟩ := line.exists_broken_wrap hcap
  have hshown : row.shown ∈ (line.wrap width).map shown := List.mem_map_of_mem hrow
  rw [hrows] at hshown
  obtain ⟨p, hp, hcells⟩ := List.mem_map.mp hshown
  rw [← hcells]
  exact hbroken.length_row_le hcolumns hp

/-- A word as long as the width is a row of its own. -/
theorem Line.exists_row_of_filling_word (line : Line) {width : Nat} (hpos : 0 < width)
    (hcap : width < columnCap) {before found after : List Cell}
    (hparts : line.shown = before ++ (found ++ after)) (hword : IsWord before found after)
    (hlength : found.length = width) :
  ∃ row ∈ line.wrap width, row.shown = found
  := by
  obtain ⟨pieces, hbroken, hrows⟩ := line.exists_broken_wrap hcap.le
  rw [Nat.max_eq_left hpos] at hbroken
  obtain ⟨done, p, more, front, back, rfl, -, hrow⟩ :=
    hbroken.exists_row_of_word hcap hparts hword hlength.le
  have hp : p.row ∈ (line.wrap width).map shown := by
    rw [hrows]
    exact List.mem_map_of_mem (List.mem_append_right _ List.mem_cons_self)
  obtain ⟨row, hmem, hsame⟩ := List.mem_map.mp hp
  -- the row has no room for anything beside the word
  have hle := line.length_shown_le hcap.le hmem
  rw [hsame, hrow, List.length_append, List.length_append, hlength] at hle
  have hfront : front = [] := List.length_eq_zero_iff.mp (by omega)
  have hback : back = [] := List.length_eq_zero_iff.mp (by omega)
  rw [hrow, hfront, hback, List.nil_append, List.append_nil] at hsame
  exact ⟨row, hmem, hsame⟩

/-- Behind a blank character, a character that is repeated often enough to fill a row has one of its
own. -/
theorem Line.exists_filled_row {line : Line} {width : Nat} (hpos : 0 < width)
    (hcap : width < columnCap) {c : Char} (hc : Text.clusterClass c = .other)
    (hink : Text.isBlank c = false) {before : List Cell} {blank : Cell} {style : Style}
    (hcells : line.cells = before ++ [blank] ++ List.replicate width (c, style))
    (hblank : Text.isBlank blank.1 = true) (hfeed : ∀ cell ∈ before ++ [blank], cell.1 ≠ '\n') :
  ∃ row ∈ line.wrap width, row.shown.length = width ∧ row.columns = width * Text.columnsOf [c]
  := by
  have hrepeated : ∀ cell ∈ List.replicate width (c, style), cell.1 = c := by
    intro cell hcell
    rw [List.eq_of_mem_replicate hcell]
  have hlength : (List.replicate width (c, style)).length = width := List.length_replicate
  have hshown : line.shown = line.cells := by
    rw [shown, List.filter_eq_self, hcells, List.forall_mem_append]
    constructor
    · intro cell hcell
      exact bne_iff_ne.mpr (hfeed cell hcell)
    · intro cell hcell
      rw [hrepeated cell hcell, bne_iff_ne]
      rintro rfl
      cases hc
  have hparts : line.shown = before ++ [blank] ++ (List.replicate width (c, style) ++ []) := by
    rw [hshown, hcells, List.append_nil]
  have hword : IsWord (before ++ [blank]) (List.replicate width (c, style)) [] := by
    refine ⟨?_, ?_, ?_, ?_⟩
    · rw [ne_eq, List.replicate_eq_nil_iff]
      exact hpos.ne'
    · intro cell hcell
      rw [hrepeated cell hcell]
      exact hink
    · rw [List.getLast?_concat]
      rintro cell ⟨⟩
      exact hblank
    · rintro cell ⟨⟩
  have hlong : max width 1 < line.shown.length := by
    rw [hparts, List.length_append, List.length_append, List.length_append, hlength,
      List.length_singleton, List.length_nil]
    omega
  obtain ⟨row, hmem, hfound⟩ :=
    line.exists_row_of_filling_word hpos hcap hparts hword hlength
  have hown : row.cells = List.replicate width (c, style) := by
    rw [← line.shown_of_mem_wrap hcap.le hlong hmem, hfound]
  rw [← hown] at hrepeated
  use row, hmem
  rw [row.columns_of_repeated hc hrepeated, hfound, hown, hlength]
  exact ⟨rfl, rfl⟩

namespace Feed

section Rows

variable (theme : Theme) (width : Nat)

/-- A row of the feed is an empty line between entries, or a row of a line of one. -/
theorem mem_layout {entries : List Entry} {row : Line} (h : row ∈ layout theme width entries) :
  row = .empty ∨ ∃ e ∈ entries, ∃ line ∈ e.render theme, row ∈ line.wrap width
  := by
  rcases mem_of_mem_intercalate h with hempty | ⟨rows, hrows, hrow⟩
  · exact .inl (List.mem_singleton.mp hempty)
  · right
    obtain ⟨e, he, rfl⟩ := List.mem_map.mp hrows
    obtain ⟨line, hline, hmem⟩ := List.mem_flatMap.mp hrow
    exact ⟨e, he, line, hline, hmem⟩

/-- A row of the feed has no more characters than the width. -/
theorem length_shown_le (hcap : width ≤ columnCap) {entries : List Entry} {row : Line}
    (h : row ∈ layout theme width entries) :
  row.shown.length ≤ max width 1
  := by
  rcases mem_layout theme width h with rfl | ⟨e, -, line, -, hrow⟩
  · apply Nat.zero_le
  · exact line.length_shown_le hcap hrow

end Rows

/-- A message that repeats a character often enough to fill a row fills one. -/
theorem exists_filled_row (theme : Theme) {width : Nat} (hpos : 0 < width)
    (hcap : width < columnCap) {c : Char} (hc : Text.clusterClass c = .other)
    (hink : Text.isBlank c = false) :
  ∃ e, ∃ row ∈ layout theme width [e],
    row.shown.length = width ∧ row.columns = width * Text.columnsOf [c]
  := by
  let notice : Notice := ⟨.generic, String.ofList (List.replicate width c), []⟩
  obtain ⟨line, hline, hcells⟩ : ∃ line ∈ renderNotice theme notice,
      line.cells = [('✗', theme.error.bold)] ++ [(' ', theme.error.bold)]
        ++ List.replicate width (c, theme.error) := by
    have hmessage : notice.message.toList.map (fun d => (d, theme.error))
        = List.replicate width (c, theme.error) := by
      rw [String.toList_ofList, List.map_replicate]
    refine ⟨_, List.mem_cons_self, ?_⟩
    rw [Line.cells, List.flatMap_cons, List.flatMap_singleton, String.toList_ofList, ← hmessage]
    rfl
  have hblank : Text.isBlank ' ' = true := by decide
  obtain ⟨row, hrow, hfilled⟩ :=
    Line.exists_filled_row hpos hcap hc hink hcells hblank (by simp)
  use ⟨"", .notice notice⟩, row
  constructor
  · rw [layout, List.map_singleton, List.intercalate_singleton]
    exact List.mem_flatMap.mpr ⟨line, hline, hrow⟩
  · exact hfilled

/-- In every width, a row of the feed has no more characters than the screen has columns, and takes
no more columns than its characters are counted for.  So it fits if each of them is counted for one,
and the screen shows the whole of it exactly if it fits.  It does not always: every character that
is not blank and joins no other fills a row of some entry, which takes as many times its columns as
the screen has. -/
theorem rows_within_breadth (theme : Theme) (width : UInt16) :
  let columns := max width.toNat 1
  (∀ entries : List Entry, ∀ row ∈ layout theme width.toNat entries,
      row.shown.length ≤ columns
        ∧ row.columns ≤ row.breadth ∧ row.breadth ≤ 3 * row.shown.length
        ∧ ((∀ cell ∈ row.shown, Text.breadth cell.1 = 1) → row.columns ≤ columns)
        ∧ ∀ base, Grid.fit width.toNat 0 (Grid.glyphs base row) = Grid.glyphs base row
          ↔ row.columns ≤ width.toNat)
    ∧ ∀ c, Text.clusterClass c = .other → Text.isBlank c = false →
      0 < width.toNat → width.toNat < columnCap →
      ∃ e, ∃ row ∈ layout theme width.toNat [e],
        row.shown.length = width.toNat ∧ row.columns = width.toNat * Text.columnsOf [c]
  := by
  intro columns
  have hcap : width.toNat ≤ columnCap := Nat.le_of_lt_succ width.toNat_lt
  constructor
  · intro entries row hrow
    have hlength := length_shown_le theme width.toNat hcap hrow
    refine ⟨hlength, row.columns_le_breadth, row.breadth_le, ?_, ?_⟩
    · intro hnarrow
      calc row.columns ≤ row.breadth := row.columns_le_breadth
        _ = row.shown.length := Line.breadth_of_narrow hnarrow
        _ ≤ columns := hlength
    · intro base
      rw [Grid.fit_eq_self_iff (Nat.zero_le _), Grid.glyphColumns_glyphs, Nat.zero_add]
  · intro c hc hink hpos hlt
    exact exists_filled_row theme hpos hlt hc hink

/-- A text of letters fits into six columns, and a row of ideographs takes twice as many. -/
theorem rows_of_letters_and_ideographs :
  (∀ row ∈ layout {} 6 [⟨"m/0", .userText "one three"⟩],
      (∀ cell ∈ row.shown, Text.breadth cell.1 = 1) ∧ row.columns ≤ 6)
    ∧ Text.clusterClass '日' = .other ∧ Text.isBlank '日' = false
    ∧ ∃ e, ∃ row ∈ layout {} 6 [e], row.shown.length = 6 ∧ row.columns = 12
  := by
  obtain ⟨hrows, hfilled⟩ := rows_within_breadth {} 6
  have hletters : ∀ row ∈ layout {} 6 [⟨"m/0", .userText "one three"⟩],
      ∀ cell ∈ row.shown, Text.breadth cell.1 = 1 := by decide +kernel
  have hclass : Text.clusterClass '日' = .other := by decide +kernel
  have hink : Text.isBlank '日' = false := by decide +kernel
  have htwo : Text.columnsOf ['日'] = 2 := by decide +kernel
  obtain ⟨e, row, hrow, hlength, hcolumns⟩ :=
    hfilled '日' hclass hink (by decide) (by decide)
  rw [htwo] at hcolumns
  refine ⟨?_, hclass, hink, e, row, hrow, hlength, hcolumns⟩
  intro row hrow
  obtain ⟨-, -, -, hfits, -⟩ := hrows _ row hrow
  exact ⟨hletters row hrow, hfits (hletters row hrow)⟩

/-- Not all rows fit, also where the screen has two columns or more: an ideograph takes two of them,
and ideographs that a row has room for go beyond the screen, which leaves out the last one. -/
theorem exists_row_beyond_screen :
  (¬∀ (theme : Theme) (width : UInt16) (entries : List Entry), 2 ≤ width.toNat →
      ∀ row ∈ layout theme width.toNat entries, row.columns ≤ width.toNat)
    ∧ ['日', '本', '語'].map Text.breadth = [2, 2, 2]
    ∧ (layout {} 6 [⟨"m/0", .userText "日本語"⟩]).map Line.text = ["› 日本語"]
    ∧ (layout {} 6 [⟨"m/0", .userText "日本語"⟩]).map Line.columns = [8]
    ∧ (layout {} 6 [⟨"m/0", .userText "日本語"⟩]).map (fun row =>
        ((Grid.fit 6 0 (Grid.glyphs {} row)).map Prod.fst).flatten) = ["› 日本".toList]
  := by
  refine ⟨?_, by decide +kernel, by decide +kernel, by decide +kernel, by decide +kernel⟩
  intro h
  have hrows := h {} 6 [⟨"m/0", .userText "日本語"⟩] (by decide)
  revert hrows
  decide +kernel

end Feed

end TaskConsole
