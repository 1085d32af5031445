import Mathlib.Data.List.DropRight
import TaskConsole.Proofs.Styled.Wrap

/-!
# Breaking cells into rows

`Wrap.Broken` says of cells and pieces, each of them a row with the spaces behind it that belong to
no row, that the cells are broken into the pieces: a row goes on until it `Leaves` off, and what is
left of the spaces there is left out.  This is what rows are filled for
(`Wrap.exists_broken_rows`), and how every line is broken, one that fits included
(`Line.exists_broken_wrap`).
-/

namespace TaskConsole.Wrap

/-- Whether a cell is a space. -/
def isSpace (cell : Cell) : Bool := cell.1 = ' '

/-- A row with the spaces behind it that belong to no row. -/
structure Piece where
  row : List Cell
  gap : List Cell

/-- The cells of a piece. -/
def Piece.cells (p : Piece) : List Cell := p.row ++ p.gap

/-- The piece of a row that is left with spaces behind it: the spaces at its back go to these. -/
def Piece.cut (row gap : List Cell) : Piece where
  row := row.rdropWhile isSpace
  gap := row.rtakeWhile isSpace ++ gap

/-- Whether a row is left before the cells that follow. -/
def Leaves (width : Nat) (row rest : List Cell) : Prop :=
  leavesBefore width row.length row.getLast? rest = true ∨ width ≤ row.length

/-- Whether a row is left at none of the places between its cells. -/
def Keeps (width : Nat) (row rest : List Cell) : Prop :=
  ∀ front back, row = front ++ back → front ≠ [] → back ≠ [] →
    ¬ Leaves width front (back ++ rest)

/-- How cells are broken into pieces: the last one has all that is left, and every other one ends
where its row is left for the first time and the spaces there are over. -/
inductive Broken (width : Nat) : List Cell → List Piece → Prop where
  | last {row : List Cell} (hkeeps : Keeps width row []) : Broken width row [⟨row, []⟩]
  | turn {row gap rest : List Cell} {pieces : List Piece}
      (hrow : row ≠ []) (hkeeps : Keeps width row (gap ++ rest))
      (hleaves : Leaves width row (gap ++ rest)) (hmore : gap ++ rest ≠ [])
      (hgap : ∀ cell ∈ gap, isSpace cell) (hrest : ∀ cell ∈ rest.head?, isSpace cell = false)
      (hbroken : Broken width rest pieces) :
    Broken width (row ++ (gap ++ rest)) (Piece.cut row gap :: pieces)

/-! ### Rows that are kept -/

theorem keeps_nil (width : Nat) (rest : List Cell) :
  Keeps width [] rest
  := by
  intro front back h hfront
  exact absurd (List.append_eq_nil_iff.mp h.symm).1 hfront

/-- A row that is kept, and not left before the next cell, is kept with it. -/
theorem Keeps.concat {width : Nat} {row rest : List Cell} {cell : Cell}
    (h : Keeps width row (cell :: rest)) (hstays : row ≠ [] → ¬ Leaves width row (cell :: rest)) :
  Keeps width (row ++ [cell]) rest
  := by
  intro front back hparts hfront hback
  obtain ⟨back, last, rfl⟩ := (List.eq_nil_or_concat' back).resolve_left hback
  rw [← List.append_assoc] at hparts
  obtain ⟨hrow, hlast⟩ := List.append_inj' hparts rfl
  rw [← List.singleton_inj.mp hlast, List.append_assoc, List.singleton_append]
  by_cases hnext : back = []
  · rw [hnext, List.append_nil] at hrow
    rw [hnext, List.nil_append, ← hrow]
    apply hstays
    rw [hrow]
    exact hfront
  · exact h front back hrow hfront hnext

section

variable {width : Nat} (hwidth : 0 < width)

include hwidth

/-- A row that is kept is no longer than the width. -/
theorem Keeps.length_le {row rest : List Cell} (h : Keeps width row rest) :
  row.length ≤ width
  := by
  rcases List.eq_nil_or_concat' row with rfl | ⟨front, last, rfl⟩
  · apply Nat.zero_le
  · by_cases hfront : front = []
    · rw [hfront]
      exact hwidth
    · have hstays := h front [last] rfl hfront (List.cons_ne_nil _ _)
      rw [Leaves, not_or, Nat.not_le] at hstays
      rw [List.length_append]
      exact hstays.2

/-! ### Filling rows -/

omit hwidth in
/-- A row without cells is not left. -/
theorem leavesBefore_zero (previous : Option Cell) (rest : List Cell) :
  leavesBefore width 0 previous rest = false
  := by
  cases rest with
  | nil => rfl
  | cons cell rest => rfl

omit hwidth in
/-- The next cell goes to the current row, or to a new one if the current one is left. -/
theorem fill_cons (previous : Option Cell) (rows : Rows) (cell : Cell) (rest : List Cell) :
  fill width previous rows (cell :: rest)
    = fill width (some cell)
      ((if leavesBefore width rows.col previous (cell :: rest) = true ∨ width ≤ rows.col
        then rows.turn else rows).put cell) rest
  := by
  rw [fill]
  simp only [Bool.or_eq_true, decide_eq_true_iff]

/-- The next cell goes to a row that has none. -/
theorem fill_cons_of_col_eq_zero {rows : Rows} (hcol : rows.col = 0) (previous : Option Cell)
    (cell : Cell) (rest : List Cell) :
  fill width previous rows (cell :: rest) = fill width (some cell) (rows.put cell) rest
  := by
  rw [fill_cons, hcol, leavesBefore_zero, if_neg]
  simp only [Bool.false_eq_true, false_or, Nat.not_le]
  exact hwidth

/-- A row after the first takes no spaces at its front. -/
theorem fill_dropWhile {rows : Rows} (hcol : rows.col = 0) (hdone : rows.done ≠ [])
    (previous : Option Cell) (cells : List Cell) :
  fill width previous rows cells = fill width none rows (cells.dropWhile isSpace)
  := by
  induction cells generalizing previous with
  | nil => rfl
  | cons cell rest ih =>
    rw [fill_cons_of_col_eq_zero hwidth hcol, List.dropWhile_cons]
    split
    · next hspace =>
      have hput : rows.put cell = rows := by
        simp [Rows.put, hcol, hdone, show cell.1 = ' ' from of_decide_eq_true hspace]
      rw [hput, ih]
    · rw [fill_cons_of_col_eq_zero hwidth hcol]

end

/-- The finished rows without the spaces at their backs, in their order. -/
def Rows.finished (rows : Rows) : List (List Cell) :=
  rows.done.reverse.map fun row => row.reverse.rdropWhile isSpace

/-- The rows that are given are the finished ones and the current one. -/
theorem Rows.toList_eq (rows : Rows) :
  rows.toList = rows.finished ++ [rows.current.reverse]
  := by
  rw [toList, List.reverse_cons, finished, ← List.map_reverse]
  simp only [List.rdropWhile, List.reverse_reverse]
  rfl

/-- When the current row is left it is finished. -/
theorem Rows.finished_turn (rows : Rows) :
  rows.turn.finished = rows.finished ++ [rows.current.reverse.rdropWhile isSpace]
  := by
  rw [turn, finished, List.reverse_cons, List.map_append]
  rfl

/-- Whether rows wait for cells: the column is the length of the current row, which ends with the
cell before these and is kept, and if it is a new one they do not begin with a space. -/
structure Rows.Awaits (width : Nat) (rows : Rows) (previous : Option Cell) (cells : List Cell) :
    Prop where
  col : rows.col = rows.current.length
  previous : rows.current ≠ [] → previous = rows.current.head?
  keeps : Keeps width rows.current.reverse cells
  front : rows.current = [] → rows.done ≠ [] → ∀ cell ∈ cells.head?, isSpace cell = false

/-- Whether filling rows with cells breaks what the current one has together with them. -/
def Rows.Breaks (width : Nat) (rows : Rows) (previous : Option Cell) (cells : List Cell) : Prop :=
  ∃ pieces, Broken width (rows.current.reverse ++ cells) pieces
    ∧ (fill width previous rows cells).toList = rows.finished ++ pieces.map Piece.row

namespace Rows.Awaits

section

variable {width : Nat} (hwidth : 0 < width) (hcap : width ≤ columnCap) {rows : Rows}
  {previous : Option Cell}

include hwidth

/-- Rows that wait go on to a new one exactly when the current one has cells and is left. -/
theorem leaves_iff {cells : List Cell} (h : rows.Awaits width previous cells) :
  leavesBefore width rows.col previous cells = true ∨ width ≤ rows.col
    ↔ rows.current ≠ [] ∧ Leaves width rows.current.reverse cells
  := by
  by_cases hcurrent : rows.current = []
  · have hcol : rows.col = 0 := by rw [h.col, hcurrent, List.length_nil]
    rw [hcol, leavesBefore_zero]
    simp only [Bool.false_eq_true, false_or, hcurrent, ne_eq, not_true, false_and, iff_false,
      Nat.not_le]
    exact hwidth
  · rw [Leaves, List.length_reverse, List.getLast?_reverse, ← h.col, ← h.previous hcurrent]
    exact (and_iff_right hcurrent).symm

include hcap in
/-- Where the current row is not left, it takes the next cell, and waits for the others. -/
theorem put {cell : Cell} {rest : List Cell} (h : rows.Awaits width previous (cell :: rest))
    (hstays : ¬(rows.current ≠ [] ∧ Leaves width rows.current.reverse (cell :: rest))) :
  (rows.put cell).current = cell :: rows.current ∧ (rows.put cell).finished = rows.finished
    ∧ (rows.put cell).Awaits width (some cell) rest
  := by
  have hroom : rows.col < width := by
    by_contra hfull
    exact hstays ((h.leaves_iff hwidth).mp (.inr (Nat.not_lt.mp hfull)))
  have htaken : ¬((rows.col = 0 && !rows.done.isEmpty && cell.1 = ' ') = true) := by
    intro hleft
    simp only [Bool.and_eq_true, decide_eq_true_iff, Bool.not_eq_true', List.isEmpty_eq_false_iff]
      at hleft
    have hcurrent : rows.current = [] := by
      rw [← List.length_eq_zero_iff, ← h.col, hleft.1.1]
    have hink := h.front hcurrent hleft.1.2 cell rfl
    rw [isSpace, hleft.2] at hink
    exact absurd hink (by decide)
  have hcol : min columnCap (rows.col + 1) = rows.col + 1 := by omega
  rw [Rows.put, if_neg htaken, hcol]
  refine ⟨rfl, rfl, congrArg (· + 1) h.col, fun _ => rfl, ?_,
    fun hnil => absurd hnil (List.cons_ne_nil _ _)⟩
  rw [List.reverse_cons]
  apply h.keeps.concat
  intro hrow hleaves
  apply hstays ⟨_, hleaves⟩
  intro hnil
  exact hrow (List.reverse_eq_nil_iff.mpr hnil)

/-- Where the current row is left, the spaces that follow are left out, and a new row waits for
what is behind them. -/
theorem exists_turn {cell : Cell} {rest : List Cell} (h : rows.Awaits width previous (cell :: rest))
    (hturn : rows.current ≠ [] ∧ Leaves width rows.current.reverse (cell :: rest)) :
  ∃ gap more, cell :: rest = gap ++ more ∧ (∀ c ∈ gap, isSpace c)
    ∧ rows.turn.Awaits width none more
    ∧ fill width previous rows (cell :: rest) = fill width none rows.turn more
  := by
  use (cell :: rest).takeWhile isSpace, (cell :: rest).dropWhile isSpace
  refine ⟨List.takeWhile_append_dropWhile.symm, fun c hc => List.mem_takeWhile_imp hc,
    ⟨rfl, fun hsome => absurd rfl hsome, keeps_nil _ _, fun _ _ c hc => ?_⟩, ?_⟩
  · have hnot := List.head?_dropWhile_not isSpace (cell :: rest)
    rw [hc] at hnot
    exact hnot
  · rw [fill_cons, if_pos ((h.leaves_iff hwidth).mpr hturn),
      ← fill_cons_of_col_eq_zero hwidth rfl previous,
      fill_dropWhile hwidth rfl (List.cons_ne_nil _ _)]

omit hwidth in
/-- Where no cells are left, the current row is the last piece. -/
theorem breaks_nil (h : rows.Awaits width previous []) :
  rows.Breaks width previous []
  := by
  use [⟨rows.current.reverse, []⟩]
  rw [List.append_nil]
  exact ⟨.last h.keeps, rows.toList_eq⟩

include hcap in
/-- Where the current row is not left, it goes on with the next cell. -/
theorem breaks_of_stays {cell : Cell} {rest : List Cell}
    (h : rows.Awaits width previous (cell :: rest))
    (hstays : ¬(rows.current ≠ [] ∧ Leaves width rows.current.reverse (cell :: rest)))
    (hrest : ∀ rows' : Rows,
      rows'.Awaits width (some cell) rest → rows'.Breaks width (some cell) rest) :
  rows.Breaks width previous (cell :: rest)
  := by
  obtain ⟨hcurrent, hfinished, hnext⟩ := h.put hwidth hcap hstays
  obtain ⟨pieces, hbroken, htoList⟩ := hrest _ hnext
  use pieces
  rw [hcurrent, List.reverse_cons, List.append_assoc] at hbroken
  use hbroken
  rw [fill_cons, if_neg (fun hleft => hstays ((h.leaves_iff hwidth).mp hleft)), htoList, hfinished]

omit hwidth in
/-- Where the current row is left, it is a piece with the spaces that follow. -/
theorem breaks_of_leaves {gap more : List Cell} (h : rows.Awaits width previous (gap ++ more))
    (hleaves : rows.current ≠ [] ∧ Leaves width rows.current.reverse (gap ++ more))
    (hsome : gap ++ more ≠ []) (hgap : ∀ c ∈ gap, isSpace c)
    (hnext : rows.turn.Awaits width none more)
    (hfill : fill width previous rows (gap ++ more) = fill width none rows.turn more)
    (hmore : rows.turn.Breaks width none more) :
  rows.Breaks width previous (gap ++ more)
  := by
  obtain ⟨pieces, hbroken, htoList⟩ := hmore
  have hrow : rows.current.reverse ≠ [] := fun hnil =>
    hleaves.1 (List.reverse_eq_nil_iff.mp hnil)
  use Piece.cut rows.current.reverse gap :: pieces
  constructor
  · exact .turn hrow h.keeps hleaves.2 hsome hgap (hnext.front rfl (List.cons_ne_nil _ _)) hbroken
  · rw [hfill, htoList, Rows.finished_turn, List.append_assoc]
    rfl

include hcap in
/-- Rows that wait are filled by breaking what the current one has together with the cells. -/
theorem breaks {cells : List Cell} (h : rows.Awaits width previous cells) :
  rows.Breaks width previous cells
  := by
  -- the spaces at which a row is left go at once, so the cells get fewer by any number
  induction hlength : cells.length using Nat.strong_induction_on
    generalizing rows previous cells with
  | h length ih =>
  cases cells with
  | nil => exact h.breaks_nil
  | cons cell rest =>
    rw [List.length_cons] at hlength
    by_cases hturn : rows.current ≠ [] ∧ Leaves width rows.current.reverse (cell :: rest)
    · obtain ⟨gap, more, hcells, hgap, hnext, hfill⟩ := h.exists_turn hwidth hturn
      have hlengths := congrArg List.length hcells
      rw [List.length_cons, List.length_append] at hlengths
      have hsome := List.cons_ne_nil cell rest
      rw [hcells] at h hturn hfill hsome ⊢
      apply h.breaks_of_leaves hturn hsome hgap hnext hfill
      -- a new row has no cells that it could be left with, so it takes the next one
      cases more with
      | nil => exact hnext.breaks_nil
      | cons next more =>
        rw [List.length_cons] at hlengths
        apply hnext.breaks_of_stays hwidth hcap fun hsome => hsome.1 rfl
        exact fun rows' h' => ih more.length (by omega) h' rfl
    · apply h.breaks_of_stays hwidth hcap hturn
      exact fun rows' h' => ih rest.length (by omega) h' rfl

end

end Rows.Awaits

/-- The rows that are filled with cells are those of pieces into which the cells are broken. -/
theorem exists_broken_rows {width : Nat} (hwidth : 0 < width) (hcap : width ≤ columnCap)
    (cells : List Cell) :
  ∃ pieces, Broken width cells pieces ∧ rows width cells = pieces.map Piece.row
  := by
  have hawaits : Rows.Awaits width {} none cells :=
    ⟨rfl, fun hsome => absurd rfl hsome, keeps_nil _ _, fun _ hsome => absurd rfl hsome⟩
  exact hawaits.breaks hwidth hcap

end TaskConsole.Wrap
