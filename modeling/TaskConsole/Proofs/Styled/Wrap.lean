import TaskConsole.Proofs.Text.Words
import TaskConsole.Styled.Wrap

/-!
# Wrapped lines

However a line is broken, there is one row at least (`Line.wrap_ne_nil`), and but for spaces and
line feeds the rows have the cells of the line, in their order (`Line.inked_wrap`).  The spans of
a row have its cells (`cells_spansOf`).
-/

namespace TaskConsole

/-- The cells that are neither spaces nor line feeds. -/
def inked (cells : List Cell) : List Cell :=
  cells.filter fun cell => cell.1 != ' ' && cell.1 != '\n'

theorem inked_append (cells cells' : List Cell) :
  inked (cells ++ cells') = inked cells ++ inked cells'
  := List.filter_append _ _

theorem inked_reverse (cells : List Cell) :
  inked cells.reverse = (inked cells).reverse
  := List.filter_reverse

/-- The ink of parts, if each of them has the ink of another. -/
theorem inked_flatMap_congr {α : Type} {f g : α → List Cell} (h : ∀ a, inked (f a) = inked (g a))
    (l : List α) :
  inked (l.flatMap f) = inked (l.flatMap g)
  := by
  induction l with
  | nil => rfl
  | cons a l ih => rw [List.flatMap_cons, List.flatMap_cons, inked_append, inked_append, h, ih]

/-- A space has no ink. -/
theorem inked_space {cell : Cell} (h : cell.1 = ' ') :
  inked [cell] = []
  := by
  rw [inked, List.filter_singleton, h]
  rfl

/-- Without its line feeds, a list of cells has the same ink. -/
theorem inked_filter_feeds (cells : List Cell) :
  inked (cells.filter fun cell => cell.1 != '\n') = inked cells
  := by
  rw [inked, inked, List.filter_filter]
  apply List.filter_congr
  intro cell _
  rw [Bool.and_assoc, Bool.and_self]

/-- Without the spaces at its front, a list of cells has the same ink. -/
theorem inked_dropWhile_spaces (cells : List Cell) :
  inked (cells.dropWhile fun cell => cell.1 = ' ') = inked cells
  := by
  induction cells with
  | nil => rfl
  | cons cell cells ih =>
    rw [List.dropWhile_cons]
    split
    · next hspace =>
      have hnone := inked_append [cell] cells
      rw [inked_space (of_decide_eq_true hspace)] at hnone
      exact ih.trans hnone.symm
    · rfl

/-! ### Spans -/

/-- The cells of a run, of which neighbours have the same style, have the style of the first. -/
theorem style_of_mem_run {first : Cell} {run : List Cell}
    (h : (first :: run).IsChain fun a b => decide (a.2 = b.2)) {cell : Cell}
    (hcell : cell ∈ first :: run) :
  cell.2 = first.2
  := by
  apply apply_eq_of_mem_run (f := Prod.snd) _ hcell
  exact h.imp fun _ _ => of_decide_eq_true

/-- The span of a run: its characters in the style of the first. -/
def runSpan? (run : List Cell) : Option Span :=
  run.head?.map fun first => { text := String.ofList (run.map Prod.fst), style := first.2 }

/-- The span of a run, of which neighbours have the same style, has the cells of the run. -/
theorem exists_runSpan?_eq {run : List Cell}
    (hsome : run ≠ []) (h : run.IsChain fun a b => decide (a.2 = b.2)) :
  ∃ span, runSpan? run = some span ∧ span.text.toList.map (fun c => (c, span.style)) = run
  := by
  cases run with
  | nil => exact absurd rfl hsome
  | cons first run =>
    use ⟨String.ofList ((first :: run).map Prod.fst), first.2⟩, rfl
    rw [String.toList_ofList, List.map_map]
    conv_rhs => rw [← List.map_id (first :: run)]
    apply List.map_congr_left
    intro cell hcell
    exact Prod.ext rfl (style_of_mem_run h hcell).symm

/-- The spans of runs have the cells of the runs. -/
theorem cells_runs {runs : List (List Cell)}
    (h : ∀ run ∈ runs, run ≠ [] ∧ run.IsChain fun a b => decide (a.2 = b.2)) (style : Style) :
  Line.cells { spans := runs.filterMap runSpan?, style := style } = runs.flatten
  := by
  induction runs with
  | nil => rfl
  | cons run runs ih =>
    obtain ⟨⟨hsome, hchain⟩, hrest⟩ := List.forall_mem_cons.mp h
    obtain ⟨span, hspan, hcells⟩ := exists_runSpan?_eq hsome hchain
    rw [List.flatten_cons, ← ih hrest, Line.cells, List.filterMap_cons_some hspan,
      List.flatMap_cons, hcells]
    rfl

/-- The spans of a row have the cells of the row. -/
theorem cells_spansOf (row : List Cell) (style : Style) :
  Line.cells { spans := spansOf row, style := style } = row
  := by
  have hall : ∀ run ∈ row.splitBy fun a b => decide (a.2 = b.2),
      run ≠ [] ∧ run.IsChain fun a b => decide (a.2 = b.2) :=
    fun run hrun => ⟨List.ne_nil_of_mem_splitBy hrun, List.isChain_of_mem_splitBy hrun⟩
  have hruns := cells_runs hall style
  rw [List.flatten_splitBy] at hruns
  exact hruns

/-! ### Rows -/

namespace Wrap

/-- The cells in rows, row by row. -/
def Rows.cells (rows : Rows) : List Cell :=
  rows.done.reverse.flatMap List.reverse ++ rows.current.reverse

/-- A new row has no cells. -/
theorem cells_turn (rows : Rows) :
  rows.turn.cells = rows.cells
  := by
  rw [Rows.cells, Rows.cells, Rows.turn, List.reverse_cons, List.flatMap_append,
    List.flatMap_singleton, List.reverse_nil, List.append_nil]

/-- A cell that is put into rows comes behind the others, unless it is a space that is left
out. -/
theorem inked_cells_put (rows : Rows) (cell : Cell) :
  inked (rows.put cell).cells = inked rows.cells ++ inked [cell]
  := by
  rw [Rows.put]
  split
  · next hleft =>
    simp only [Bool.and_eq_true, decide_eq_true_iff] at hleft
    rw [inked_space hleft.2, List.append_nil]
  · rw [Rows.cells, List.reverse_cons, ← List.append_assoc, inked_append]
    rfl

/-- Filling rows with cells puts all their ink behind what is there. -/
theorem inked_cells_fill (width : Nat) (previous : Option Cell) (rows : Rows) (cells : List Cell) :
  inked (fill width previous rows cells).cells = inked rows.cells ++ inked cells
  := by
  induction cells generalizing previous rows with
  | nil => exact (List.append_nil _).symm
  | cons cell cells ih =>
    rw [fill, ih, inked_cells_put, List.append_assoc, ← inked_append, List.singleton_append]
    congr 2
    split
    · apply cells_turn
    · rfl

/-- The rows that are given have the ink of those that were filled. -/
theorem inked_toList (rows : Rows) :
  inked rows.toList.flatten = inked rows.cells
  := by
  have hbacks : ∀ row : List Cell,
      inked (row.dropWhile fun cell => cell.1 = ' ').reverse = inked row.reverse := by
    intro row
    rw [inked_reverse, inked_reverse, inked_dropWhile_spaces]
  rw [Rows.toList, List.reverse_cons, List.flatten_append, List.flatten_singleton, inked_append,
    ← List.map_reverse, ← List.flatMap_def, inked_flatMap_congr hbacks, ← inked_append]
  rfl

end Wrap

namespace Line

/-- A line is broken into one row at least. -/
theorem wrap_ne_nil (line : Line) (width : Nat) :
  line.wrap width ≠ []
  := by
  rw [wrap]
  split
  · apply List.cons_ne_nil
  · simp [Wrap.rows, Wrap.Rows.toList]

/-- The rows of a line have its ink. -/
theorem inked_wrap (line : Line) (width : Nat) :
  inked ((line.wrap width).flatMap cells) = inked line.cells
  := by
  rw [wrap]
  split
  · rw [List.flatMap_singleton]
  · rw [List.flatMap_map]
    simp only [cells_spansOf]
    rw [List.flatMap_id', Wrap.rows, Wrap.inked_toList, Wrap.inked_cells_fill, inked_filter_feeds]
    rfl

end Line

end TaskConsole
