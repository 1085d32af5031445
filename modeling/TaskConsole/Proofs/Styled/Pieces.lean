import Mathlib.Data.List.SplitBy
import TaskConsole.Proofs.Styled.Breaking

/-!
# The pieces of a wrapped line

The pieces into which cells are broken have the cells in their order (`Wrap.Broken.cells_eq`).  No
row is longer than the width, none but the first begins with a space, and none but the last ends
with one.  A line is wrapped into the rows of such pieces (`Line.exists_broken_wrap`), and what
spans a row has are no more than it needs (`isChain_spansOf`), so nothing but spaces at the ends
of rows is lost or changed when a line is wrapped (`Line.wrap_keeps_cells`).
-/

namespace TaskConsole

namespace Wrap

theorem Piece.cells_cut (row gap : List Cell) :
  (cut row gap).cells = row ++ gap
  := by
  rw [cells, cut, ← List.append_assoc, List.rdropWhile_append_rtakeWhile]

/-- A row for which the width is enough is kept. -/
theorem keeps_of_length_le {width : Nat} {row : List Cell} (h : row.length ≤ width) :
  Keeps width row []
  := by
  intro front back hrow _ hback hleaves
  have hsome : 0 < back.length := List.length_pos_iff.mpr hback
  have hlength : front.length + back.length ≤ width := by
    rw [← List.length_append, ← hrow]
    exact h
  have hword : wordLength back ≤ back.length :=
    (Nat.mod_le _ _).trans (List.takeWhile_prefix _).length_le
  rw [List.append_nil] at hleaves
  rcases hleaves with hleaves | hleaves
  · cases back with
    | nil => cases hleaves
    | cons cell back =>
      simp only [leavesBefore, Bool.and_eq_true, decide_eq_true_iff] at hleaves
      omega
  · omega

namespace Broken

variable {width : Nat} {cells : List Cell} {pieces : List Piece}

/-- Pieces have the cells that were broken, in their order. -/
theorem cells_eq (h : Broken width cells pieces) :
  pieces.flatMap Piece.cells = cells
  := by
  induction h with
  | last => rw [List.flatMap_singleton, Piece.cells, List.append_nil]
  | turn hrow hkeeps hleaves hmore hgap hrest hbroken ih =>
    rw [List.flatMap_cons, Piece.cells_cut, ih, List.append_assoc]

/-- A row has some of the cells that were broken. -/
theorem row_subset (h : Broken width cells pieces) {p : Piece} (hp : p ∈ pieces) :
  p.row ⊆ cells
  := by
  intro cell hcell
  rw [← h.cells_eq]
  exact List.mem_flatMap.mpr ⟨p, hp, List.mem_append_left _ hcell⟩

theorem ne_nil (h : Broken width cells pieces) :
  pieces ≠ []
  := by
  cases h with
  | last => apply List.cons_ne_nil
  | turn => apply List.cons_ne_nil

/-- What belongs to no row are spaces. -/
theorem isSpace_of_mem_gap (h : Broken width cells pieces) {p : Piece} (hp : p ∈ pieces)
    {cell : Cell} (hcell : cell ∈ p.gap) :
  isSpace cell
  := by
  induction h with
  | last =>
    rw [List.mem_singleton.mp hp] at hcell
    exact (List.not_mem_nil hcell).elim
  | turn hrow hkeeps hleaves hmore hgap hrest hbroken ih =>
    rcases List.mem_cons.mp hp with rfl | hp
    · rcases List.mem_append.mp hcell with hback | hbehind
      · exact List.mem_rtakeWhile_imp hback
      · exact hgap cell hbehind
    · exact ih hp

/-- Nothing is left out behind the last row. -/
theorem gap_of_mem_getLast? (h : Broken width cells pieces) {p : Piece}
    (hp : p ∈ pieces.getLast?) :
  p.gap = []
  := by
  induction h with
  | last =>
    rw [← Option.some.inj hp]
    rfl
  | turn hrow hkeeps hleaves hmore hgap hrest hbroken ih =>
    obtain ⟨first, more, rfl⟩ := List.exists_cons_of_ne_nil hbroken.ne_nil
    rw [List.getLast?_cons_cons] at hp
    exact ih hp

/-- No row is longer than the width. -/
theorem length_row_le (hwidth : 0 < width) (h : Broken width cells pieces) {p : Piece}
    (hp : p ∈ pieces) :
  p.row.length ≤ width
  := by
  induction h with
  | last hkeeps =>
    rw [List.mem_singleton.mp hp]
    exact hkeeps.length_le hwidth
  | turn hrow hkeeps hleaves hmore hgap hrest hbroken ih =>
    rcases List.mem_cons.mp hp with rfl | hp
    · exact (List.rdropWhile_prefix _ _).length_le.trans (hkeeps.length_le hwidth)
    · exact ih hp

/-- A list begins as its prefixes do. -/
theorem mem_head?_of_prefix {α : Type} {xs ys : List α} (h : xs <+: ys) {a : α}
    (ha : a ∈ xs.head?) :
  a ∈ ys.head?
  := by
  obtain ⟨zs, rfl⟩ := h
  cases xs with
  | nil => cases ha
  | cons x xs => exact ha

/-- Of cells that do not begin with a space, no row does. -/
theorem head_row_of_head (h : Broken width cells pieces)
    (hfront : ∀ cell ∈ cells.head?, isSpace cell = false) {p : Piece} (hp : p ∈ pieces) {cell : Cell}
    (hcell : cell ∈ p.row.head?) :
  isSpace cell = false
  := by
  induction h with
  | last =>
    rw [List.mem_singleton.mp hp] at hcell
    exact hfront cell hcell
  | @turn row gap rest pieces hrow hkeeps hleaves hmore hgap hrest hbroken ih =>
    rcases List.mem_cons.mp hp with rfl | hp
    · apply hfront
      have hprefix : row.rdropWhile isSpace <+: row ++ (gap ++ rest) :=
        (List.rdropWhile_prefix _ _).trans (List.prefix_append _ _)
      exact mem_head?_of_prefix hprefix hcell
    · exact ih hrest hp

/-- No row after the first begins with a space. -/
theorem head_row_of_mem_tail (h : Broken width cells pieces) {p : Piece} (hp : p ∈ pieces.tail)
    {cell : Cell} (hcell : cell ∈ p.row.head?) :
  isSpace cell = false
  := by
  cases h with
  | last => exact (List.not_mem_nil hp).elim
  | turn hrow hkeeps hleaves hmore hgap hrest hbroken =>
    exact hbroken.head_row_of_head hrest hp hcell

/-- No row before the last ends with a space. -/
theorem getLast_row_of_mem_dropLast (h : Broken width cells pieces) {p : Piece}
    (hp : p ∈ pieces.dropLast) {cell : Cell} (hcell : cell ∈ p.row.getLast?) :
  isSpace cell = false
  := by
  induction h with
  | last => exact (List.not_mem_nil hp).elim
  | @turn row gap rest pieces hrow hkeeps hleaves hmore hgap hrest hbroken ih =>
    rw [List.dropLast_cons_of_ne_nil hbroken.ne_nil] at hp
    rcases List.mem_cons.mp hp with rfl | hp
    · obtain ⟨hsome, rfl⟩ := List.mem_getLast?_eq_getLast hcell
      exact Bool.eq_false_iff.mpr (List.rdropWhile_last_not isSpace row hsome)
    · exact ih hp

end Broken

end Wrap

/-! ### Lines -/

open Wrap

/-- A width counts as 1 at least, and stays within the columns that are counted. -/
theorem columns_bounds {width : Nat} (hcap : width ≤ columnCap) :
  0 < max width 1 ∧ max width 1 ≤ columnCap
  := by
  rw [columnCap] at hcap ⊢
  omega

/-- The cells of a line without its line feeds. -/
def Line.shown (line : Line) : List Cell := line.cells.filter fun cell => cell.1 != '\n'

/-- What is taken of the cells that a line shows has no line feeds either. -/
theorem Line.filter_of_subset_shown (line : Line) {row : List Cell} (h : row ⊆ line.shown) :
  row.filter (fun cell => cell.1 != '\n') = row
  := by
  rw [List.filter_eq_self]
  intro cell hcell
  exact (List.mem_filter.mp (h hcell)).2

/-- A line is wrapped by breaking its cells. -/
theorem Line.exists_broken_wrap (line : Line) {width : Nat} (hcap : width ≤ columnCap) :
  ∃ pieces, Broken (max width 1) line.shown pieces
    ∧ (line.wrap width).map Line.shown = pieces.map Piece.row
  := by
  rw [wrap]
  split
  · next hfits =>
    use [⟨line.shown, []⟩]
    exact ⟨.last (keeps_of_length_le hfits), rfl⟩
  · obtain ⟨hpos, hcap'⟩ := columns_bounds hcap
    obtain ⟨pieces, hbroken, hrows⟩ := exists_broken_rows hpos hcap' line.shown
    use pieces, hbroken
    have hrows' : rows (max width 1) (line.cells.filter fun cell => cell.1 != '\n')
        = pieces.map Piece.row := hrows
    rw [hrows', List.map_map, List.map_map]
    apply List.map_congr_left
    intro p hp
    simp only [Function.comp_apply, shown, cells_spansOf]
    exact line.filter_of_subset_shown (hbroken.row_subset hp)

namespace Line

/-- The rows of a line have its style. -/
theorem style_of_mem_wrap (line : Line) {width : Nat} :
  ∀ row ∈ line.wrap width, row.style = line.style
  := by
  intro row hrow
  rw [wrap] at hrow
  split at hrow
  · rw [List.mem_singleton.mp hrow]
  · obtain ⟨cells, -, rfl⟩ := List.mem_map.mp hrow
    rfl

/-- Unless the line fits, its rows have the spans of their cells. -/
theorem exists_spansOf_of_mem_wrap (line : Line) {width : Nat}
    (hlong : max width 1 < line.shown.length) {row : Line} (hrow : row ∈ line.wrap width) :
  ∃ cells, row.spans = spansOf cells
  := by
  rw [shown] at hlong
  rw [wrap, if_neg (Nat.not_le.mpr hlong)] at hrow
  obtain ⟨cells, -, rfl⟩ := List.mem_map.mp hrow
  exact ⟨cells, rfl⟩

end Line

/-! ### Spans -/

/-- A run that is not empty has a span. -/
theorem runSpan?_cons (first : Cell) (more : List Cell) :
  runSpan? (first :: more)
    = some { text := String.ofList ((first :: more).map Prod.fst), style := first.2 }
  := rfl

/-- Where the styles change between runs, they change between the spans of the runs. -/
theorem isChain_runs {runs : List (List Cell)}
    (hruns : ∀ run ∈ runs, run.IsChain fun a b => decide (a.2 = b.2))
    (hborders : runs.IsChain fun run run' =>
      ∃ h h', decide ((run.getLast h).2 = (run'.head h').2) = false) :
  (runs.filterMap runSpan?).IsChain fun a b => a.style ≠ b.style
  := by
  induction runs with
  | nil => exact List.isChain_nil
  | cons run runs ih =>
    cases runs with
    | nil =>
      cases run with
      | nil => exact List.isChain_nil
      | cons first more => exact List.isChain_singleton _
    | cons run' runs =>
      obtain ⟨⟨hsome, hsome', hborder⟩, hrest⟩ := List.isChain_cons_cons.mp hborders
      obtain ⟨hrun, hruns'⟩ := List.forall_mem_cons.mp hruns
      have htail := ih hruns' hrest
      obtain ⟨first, more, rfl⟩ := List.exists_cons_of_ne_nil hsome
      obtain ⟨first', more', rfl⟩ := List.exists_cons_of_ne_nil hsome'
      rw [List.filterMap_cons_some (runSpan?_cons first' more')] at htail
      rw [List.filterMap_cons_some (runSpan?_cons first more),
        List.filterMap_cons_some (runSpan?_cons first' more'), List.isChain_cons_cons]
      refine ⟨?_, htail⟩
      -- the cells of a run have one style, so the last has that of the first
      rw [style_of_mem_run hrun (List.getLast_mem hsome)] at hborder
      exact of_decide_eq_false hborder

/-- No span of a row is empty. -/
theorem text_ne_of_mem_spansOf {row : List Cell} {span : Span} (h : span ∈ spansOf row) :
  span.text ≠ ""
  := by
  obtain ⟨run, -, hsome⟩ := List.mem_filterMap.mp h
  cases run with
  | nil => cases hsome
  | cons first more =>
    rw [← Option.some.inj hsome]
    simp

/-- Neighbouring spans of a row have different styles. -/
theorem isChain_spansOf (row : List Cell) :
  (spansOf row).IsChain fun a b => a.style ≠ b.style
  := by
  have hruns : ∀ run ∈ row.splitBy fun a b => decide (a.2 = b.2),
      run.IsChain fun a b => decide (a.2 = b.2) :=
    fun run hrun => List.isChain_of_mem_splitBy hrun
  apply isChain_runs hruns
  exact List.isChain_getLast_head_splitBy (fun a b : Cell => decide (a.2 = b.2)) row

/-- However wide, a line is wrapped into the rows of pieces: rows, each with a gap of spaces behind
it and none behind the last, that together have the characters of the line in their styles, but for
line feeds.  No row is longer than the width, none after the first begins with a space, and none
before the last ends with one.  Every row has the style of the line, and unless the line fits, none
of its spans is empty and neighbours differ in style. -/
theorem Line.wrap_keeps_cells (line : Line) (width : UInt16) :
  let columns := max width.toNat 1
  let rows := line.wrap width.toNat
  ∃ pieces : List Piece,
    pieces.flatMap (fun p => p.row ++ p.gap) = line.shown
      ∧ rows.map Line.shown = pieces.map Piece.row
      ∧ (∀ p ∈ pieces, ∀ cell ∈ p.gap, cell.1 = ' ')
      ∧ (∀ p ∈ pieces.getLast?, p.gap = [])
      ∧ (∀ p ∈ pieces, p.row.length ≤ columns)
      ∧ (∀ p ∈ pieces.tail, ∀ cell ∈ p.row.head?, cell.1 ≠ ' ')
      ∧ (∀ p ∈ pieces.dropLast, ∀ cell ∈ p.row.getLast?, cell.1 ≠ ' ')
      ∧ (∀ row ∈ rows, row.style = line.style)
      ∧ (columns < line.shown.length → ∀ row ∈ rows,
        (∀ span ∈ row.spans, span.text ≠ "") ∧ row.spans.IsChain fun a b => a.style ≠ b.style)
  := by
  intro columns rows
  have hcap : width.toNat ≤ columnCap := Nat.le_of_lt_succ width.toNat_lt
  obtain ⟨hcolumns, -⟩ := columns_bounds hcap
  obtain ⟨pieces, hbroken, hrows⟩ := line.exists_broken_wrap hcap
  use pieces, hbroken.cells_eq, hrows
  constructor
  · intro p hp cell hcell
    exact of_decide_eq_true (hbroken.isSpace_of_mem_gap hp hcell)
  constructor
  · intro p hp
    exact hbroken.gap_of_mem_getLast? hp
  constructor
  · intro p hp
    exact hbroken.length_row_le hcolumns hp
  constructor
  · intro p hp cell hcell
    exact of_decide_eq_false (hbroken.head_row_of_mem_tail hp hcell)
  constructor
  · intro p hp cell hcell
    exact of_decide_eq_false (hbroken.getLast_row_of_mem_dropLast hp hcell)
  constructor
  · exact line.style_of_mem_wrap
  · intro hlong row hrow
    obtain ⟨cells, hspans⟩ := line.exists_spansOf_of_mem_wrap hlong hrow
    rw [hspans]
    exact ⟨fun span hspan => text_ne_of_mem_spansOf hspan, isChain_spansOf cells⟩

end TaskConsole
