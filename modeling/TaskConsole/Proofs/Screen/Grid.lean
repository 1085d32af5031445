import Mathlib.Data.List.Basic
import TaskConsole.Screen.Grid

/-!
# Cells of the grid

All that is drawn changes each cell by itself, and keeps the size of the grid (`Grid.Changes`).
So a drawing is known by what it does to the cell at each place: a cluster is put into its first
cell (`Grid.stroke`), a paragraph writes its lines into the rows of its area, each cut where the
next cluster does not fit (`Grid.changes_paragraph`), and changes nothing outside.  Where the
ground of a row is the same everywhere, the row shows a line as `Line.rowCells` tells, and so does
each row of a paragraph within its border (`Grid.paragraphChange_inner`).
-/

namespace TaskConsole

/-- Whether a place is in an area. -/
def Area.Contains (a : Area) (x y : Nat) : Prop :=
  (a.x ≤ x ∧ x < a.x + a.width) ∧ a.y ≤ y ∧ y < a.y + a.height

instance (a : Area) (x y : Nat) : Decidable (a.Contains x y) :=
  inferInstanceAs (Decidable ((a.x ≤ x ∧ x < a.x + a.width) ∧ a.y ≤ y ∧ y < a.y + a.height))

/-- The area within a border is a part of the area. -/
theorem Area.Contains.of_padded
    {a : Area} {p : Padding} {x y : Nat} (h : (a.padded p).Contains x y) :
  a.Contains x y
  := by
  simp only [Area.Contains, Area.padded] at h ⊢
  omega

namespace Grid

/-- The cell at a place of the screen. -/
def at? (g : Grid) (x y : Nat) : Option ScreenCell :=
  if x < g.width ∧ y < g.height then g.cells[y * g.width + x]? else none

/-- The cells of a row of a screen are those at its places. -/
theorem getElem?_row {g : Grid} {width height y : Nat} (hg : g.area = .screen width height)
    (hy : y < height) (x : Nat) :
  (g.row y)[x]? = g.at? x y
  := by
  have h : y < g.height := Nat.lt_of_lt_of_eq hy (congrArg Area.height hg).symm
  rw [at?, row, Array.getElem?_toList, Array.getElem?_extract, Nat.succ_mul]
  by_cases hx : x < g.width
  · rw [if_pos (show x < g.width ∧ y < g.height from ⟨hx, h⟩)]
    split
    · rfl
    · rw [Array.getElem?_eq_none]
      omega
  · rw [if_neg (by omega), if_neg (by omega)]

theorem at?_blank {width height x y : Nat} (hx : x < width) (hy : y < height) :
  (blank width height).at? x y = some {}
  := by
  have hbefore : y * width + x < width * height := calc
    y * width + x < y * width + width := Nat.add_lt_add_left hx _
    _ = (y + 1) * width := (Nat.succ_mul y width).symm
    _ ≤ height * width := Nat.mul_le_mul_right _ hy
    _ = width * height := Nat.mul_comm _ _
  rw [at?, if_pos (show x < (blank width height).width ∧ y < (blank width height).height from
    ⟨hx, hy⟩)]
  exact (Array.getElem?_replicate ..).trans (if_pos hbefore)

/-! ### Changes of cells -/

/-- One grid becomes another of the same size by a change of each cell. -/
structure Changes (g g' : Grid) (f : Nat → Nat → ScreenCell → ScreenCell) : Prop where
  area : g'.area = g.area
  cell : ∀ x y, g'.at? x y = (g.at? x y).map (f x y)

theorem Changes.refl (g : Grid) :
  Changes g g fun _ _ => id
  := by
  constructor
  · rfl
  · intro x y
    rw [Option.map_id, id]

theorem Changes.trans
    {g g' g'' : Grid} {f f' : Nat → Nat → ScreenCell → ScreenCell}
    (h : Changes g g' f) (h' : Changes g' g'' f') :
  Changes g g'' fun x y => f' x y ∘ f x y
  := by
  constructor
  · rw [h'.area, h.area]
  · intro x y
    rw [h'.cell, h.cell, Option.map_map]

/-- A cell that is left as it is. -/
theorem Changes.at?_eq
    {g g' : Grid} {f : Nat → Nat → ScreenCell → ScreenCell} (h : Changes g g' f) {x y : Nat}
    (hid : f x y = id) :
  g'.at? x y = g.at? x y
  := by
  rw [h.cell, hid, Option.map_id, id]

theorem Changes.of_eq
    {g g' : Grid} {f f' : Nat → Nat → ScreenCell → ScreenCell}
    (h : Changes g g' f) (hf : ∀ x y, f x y = f' x y) :
  Changes g g' f'
  := by
  have hsame : f = f' := funext₂ hf
  rwa [← hsame]

/-- A cell is changed at its place only. -/
theorem changes_modify (g : Grid) (x y : Nat) (f : ScreenCell → ScreenCell) :
  Changes g (g.modify x y f) fun x' y' => if x' = x ∧ y' = y then f else id
  := by
  by_cases hplace : x < g.width ∧ y < g.height
  · have hmodify : g.modify x y f = { g with cells := g.cells.modify (y * g.width + x) f } := by
      rw [modify, if_pos (by simpa using hplace)]
    rw [hmodify]
    constructor
    · rfl
    · intro x' y'
      simp only [at?]
      split
      · next hplace' =>
        rw [Array.getElem?_modify]
        by_cases hsame : x' = x ∧ y' = y
        · rw [hsame.1, hsame.2, if_pos rfl, if_pos ⟨rfl, rfl⟩]
        · -- places of one index are the same, as they are within the width
          rw [if_neg hsame, if_neg, Option.map_id, id]
          intro hindex
          have hrow : y = y' := by
            have hdiv := congrArg (· / g.width) hindex
            simpa [Nat.mul_add_div, Nat.div_eq_of_lt, Nat.mul_comm _ g.width,
              Nat.lt_of_le_of_lt (Nat.zero_le _) hplace.1, hplace.1, hplace'.1] using hdiv
          rw [hrow] at hindex
          exact hsame ⟨(Nat.add_left_cancel hindex).symm, hrow.symm⟩
      · rfl
  · have hmodify : g.modify x y f = g := by
      rw [modify, if_neg (by simpa using hplace)]
    rw [hmodify]
    constructor
    · rfl
    · intro x' y'
      split
      · next hsame =>
        rw [hsame.1, hsame.2, at?, if_neg hplace]
        rfl
      · rw [Option.map_id, id]

/-- Where one change or the other is made, but not both, the change is made once. -/
theorem ite_comp_ite
    {α : Type} {c c' c'' : Prop} [Decidable c] [Decidable c'] [Decidable c''] (f : α → α)
    (hor : c'' ↔ c ∨ c') (hnot : c → ¬c') :
  (if c' then f else id) ∘ (if c then f else id) = if c'' then f else id
  := by
  by_cases h : c
  · rw [if_pos h, if_neg (hnot h), if_pos (hor.mpr (.inl h)), Function.id_comp]
  · by_cases h' : c'
    · rw [if_neg h, if_pos h', if_pos (hor.mpr (.inr h')), Function.comp_id]
    · rw [if_neg h, if_neg h', if_neg (fun h'' => (hor.mp h'').elim h h'), Function.comp_id]

/-- An area is changed cell by cell. -/
theorem changes_modifyArea (g : Grid) (a : Area) (f : ScreenCell → ScreenCell) :
  Changes g (g.modifyArea a f) fun x y => if a.Contains x y then f else id
  := by
  have hrow : ∀ (g : Grid) (y width : Nat), Changes g
      ((List.range width).foldl (fun g col => g.modify (a.x + col) y f) g)
      fun x' y' => if y' = y ∧ a.x ≤ x' ∧ x' < a.x + width then f else id := by
    intro g y width
    induction width with
    | zero =>
      apply (Changes.refl g).of_eq
      intro x' y'
      rw [if_neg]
      omega
    | succ width ih =>
      rw [List.range_succ, List.foldl_append]
      apply (ih.trans (changes_modify _ _ _ _)).of_eq
      intro x' y'
      apply ite_comp_ite
      · omega
      · omega
  have hrows : ∀ height, Changes g
      ((List.range height).foldl (fun g row =>
        (List.range a.width).foldl (fun g col => g.modify (a.x + col) (a.y + row) f) g) g)
      fun x' y' => if Area.Contains { a with height := height } x' y' then f else id := by
    intro height
    induction height with
    | zero =>
      apply (Changes.refl g).of_eq
      intro x' y'
      rw [if_neg]
      simp only [Area.Contains]
      omega
    | succ height ih =>
      rw [List.range_succ, List.foldl_append]
      apply (ih.trans (hrow _ _ _)).of_eq
      intro x' y'
      apply ite_comp_ite
      · simp only [Area.Contains]
        omega
      · simp only [Area.Contains]
        omega
  exact hrows a.height

/-! ### Clusters -/

/-- What a cluster does to the cells from its place on: it is put into the first cell, and leaves
the other ones that it takes. -/
def stroke (glyph : Glyph) : List (ScreenCell → ScreenCell) :=
  match Text.columnsOf glyph.1 with
  | 0 => []
  | others + 1 =>
    (fun cell => { cell with symbol := glyph.1 }.restyle glyph.2) :: List.replicate others id

/-- What clusters do to the cells from their place on. -/
def strokes (glyphs : List Glyph) : List (ScreenCell → ScreenCell) := glyphs.flatMap stroke

theorem length_strokes (glyphs : List Glyph) :
  (strokes glyphs).length = glyphColumns glyphs
  := by
  induction glyphs with
  | nil => rfl
  | cons glyph glyphs ih =>
    have hstroke : (stroke glyph).length = Text.columnsOf glyph.1 := by
      rw [stroke]
      split
      · next h => rw [h, List.length_nil]
      · next h => rw [h, List.length_cons, List.length_replicate]
    rw [strokes, List.flatMap_cons, List.length_append, hstroke, ← strokes, ih]
    rfl

/-- The clusters that fit into a width take no more columns. -/
theorem glyphColumns_fit {width used : Nat} (glyphs : List Glyph) (h : used ≤ width) :
  used + glyphColumns (fit width used glyphs) ≤ width
  := by
  fun_induction fit width used glyphs with
  | case1 => exact h
  | case2 _ _ _ _ _ ih => exact ih h
  | case3 => exact h
  | case4 used glyph rest columns _ hfits ih =>
    have hrest := ih (by omega)
    have hcolumns : glyphColumns (glyph :: fit width (used + columns) rest)
        = columns + glyphColumns (fit width (used + columns) rest) := rfl
    omega

/-- What is done to a cell of a row by changes of the cells from a place on. -/
def changeFrom (changes : List (ScreenCell → ScreenCell)) (place x : Nat) :
    ScreenCell → ScreenCell :=
  if x < place then id else changes[x - place]?.getD id

/-- A cell in front of the changes or behind them is not changed. -/
theorem changeFrom_eq_id
    {changes : List (ScreenCell → ScreenCell)} {place x : Nat}
    (h : x < place ∨ place + changes.length ≤ x) :
  changeFrom changes place x = id
  := by
  rw [changeFrom]
  split
  · rfl
  · rw [List.getElem?_eq_none (by omega), Option.getD_none]

theorem changeFrom_add
    (changes : List (ScreenCell → ScreenCell)) (place : Nat) {start x : Nat} (h : start ≤ x) :
  changeFrom changes (start + place) x = changeFrom changes place (x - start)
  := by
  simp only [changeFrom]
  by_cases hbefore : x < start + place
  · rw [if_pos hbefore, if_pos (by omega)]
  · rw [if_neg hbefore, if_neg (by omega), Nat.sub_sub]

/-- The change of a cell that leaves some of the next ones, and then others follow. -/
theorem changeFrom_cons
    (f : ScreenCell → ScreenCell) (others : Nat) (changes : List (ScreenCell → ScreenCell))
    (place x : Nat) :
  changeFrom (f :: (List.replicate others id ++ changes)) place x
    = changeFrom changes (place + (others + 1)) x ∘ (if x = place then f else id)
  := by
  simp only [changeFrom]
  rcases Nat.lt_trichotomy x place with hbefore | hat | hbehind
  · rw [if_pos hbefore, if_pos (by omega), if_neg (by omega), Function.comp_id]
  · rw [hat, if_neg (by omega), if_pos (by omega), if_pos rfl, Nat.sub_self]
    rfl
  · obtain ⟨i, rfl⟩ := Nat.exists_eq_add_of_lt hbehind
    have hindex : place + i + 1 - place = i + 1 := by omega
    have hother : (if place + i + 1 = place then f else id) = id := if_neg (by omega)
    rw [if_neg (by omega), hindex, List.getElem?_cons_succ, hother, Function.comp_id]
    by_cases hleft : i < others
    · rw [if_pos (by omega), List.getElem?_append_left (by rwa [List.length_replicate]),
        List.getElem?_replicate, if_pos hleft, Option.getD_some]
    · rw [if_neg (by omega), List.getElem?_append_right (by rw [List.length_replicate]; omega),
        List.length_replicate]
      congr 2
      omega

/-- Clusters are written from their place to the right. -/
theorem changes_write (g : Grid) (x y : Nat) (glyphs : List Glyph) :
  Changes g (g.write x y glyphs) fun x' y' =>
    if y' = y then changeFrom (strokes glyphs) x x' else id
  := by
  induction glyphs generalizing g x with
  | nil =>
    apply (Changes.refl g).of_eq
    intro x' y'
    simp [changeFrom, strokes]
  | cons glyph glyphs ih =>
    obtain ⟨cluster, style⟩ := glyph
    rw [write]
    cases hcolumns : Text.columnsOf cluster with
    | zero =>
      have hnone : strokes ((cluster, style) :: glyphs) = strokes glyphs := by
        simp [strokes, stroke, hcolumns]
      rw [if_pos rfl, hnone]
      exact ih g x
    | succ others =>
      have hput : strokes ((cluster, style) :: glyphs)
          = (fun cell => { cell with symbol := cluster }.restyle style)
            :: (List.replicate others id ++ strokes glyphs) := by
        simp [strokes, stroke, hcolumns]
      rw [if_neg (Nat.succ_ne_zero _), hput]
      apply ((changes_modify _ _ _ _).trans (ih _ _)).of_eq
      intro x' y'
      by_cases hrow : y' = y
      · rw [if_pos hrow, if_pos hrow, changeFrom_cons]
        simp only [hrow, and_true]
      · rw [if_neg hrow, if_neg hrow, if_neg (fun hplace => hrow hplace.2), Function.comp_id]

/-! ### Lines -/

/-- What a line does to the cell at a place of its row of a width. -/
def lineChange (width : Nat) (alignment : Alignment) (base : Style) (l : Line) (x : Nat) :
    ScreenCell → ScreenCell :=
  let shown := fit width 0 (glyphs base l)
  let offset := match alignment with
    | .left => 0
    | .right => width - glyphColumns shown
  changeFrom (strokes shown) offset x

theorem lineChange_left (width : Nat) (base : Style) (l : Line) (x : Nat) :
  lineChange width .left base l x = (strokes (fit width 0 (glyphs base l)))[x]?.getD id
  := rfl

/-- A line is written into the row at the top of its area. -/
theorem changes_line
    (g : Grid) (a : Area) (alignment : Alignment) (base : Style) (l : Line) :
  Changes g (g.line a alignment base l) fun x y =>
    if (a.x ≤ x ∧ x < a.x + a.width) ∧ y = a.y
    then lineChange a.width alignment base l (x - a.x) else id
  := by
  let shown := fit a.width 0 (glyphs base l)
  let offset := match alignment with
    | .left => 0
    | .right => a.width - glyphColumns shown
  have hfit : offset + glyphColumns shown ≤ a.width := by
    have hcolumns : 0 + glyphColumns shown ≤ a.width :=
      glyphColumns_fit (glyphs base l) (Nat.zero_le a.width)
    cases alignment with
    | left => exact hcolumns
    | right =>
      show a.width - glyphColumns shown + glyphColumns shown ≤ a.width
      omega
  have hline : g.line a alignment base l = g.write (a.x + offset) a.y shown := rfl
  have hchange : lineChange a.width alignment base l = changeFrom (strokes shown) offset := rfl
  rw [hline, hchange]
  apply (changes_write _ _ _ _).of_eq
  intro x y
  by_cases hrow : y = a.y
  · rw [if_pos hrow]
    by_cases hplace : a.x ≤ x ∧ x < a.x + a.width
    · rw [if_pos ⟨hplace, hrow⟩, changeFrom_add _ _ hplace.1]
    · rw [if_neg fun h => hplace h.1, changeFrom_eq_id]
      rw [length_strokes]
      omega
  · rw [if_neg hrow, if_neg fun h => hrow h.2]

/-- What lines below each other do to the cell at a place of an area of a width. -/
def linesChange (width : Nat) (alignment : Alignment) (lines : List Line) (x y : Nat) :
    ScreenCell → ScreenCell :=
  match lines[y]? with
  | some l => lineChange width alignment {} l x
  | none => id

/-- Lines are written below each other. -/
theorem changes_foldl_line
    (g : Grid) (a : Area) (alignment : Alignment) (lines : List Line) (row : Nat) :
  Changes g
    ((lines.zipIdx row).foldl
      (fun g l => g.line { a with y := a.y + l.2, height := 1 } alignment {} l.1) g)
    fun x y => if (a.x ≤ x ∧ x < a.x + a.width) ∧ a.y + row ≤ y
      then linesChange a.width alignment lines (x - a.x) (y - (a.y + row)) else id
  := by
  induction lines generalizing g row with
  | nil =>
    apply (Changes.refl g).of_eq
    intro x y
    simp [linesChange]
  | cons l lines ih =>
    rw [List.zipIdx_cons, List.foldl_cons]
    apply ((changes_line _ _ _ _ _).trans (ih _ _)).of_eq
    intro x y
    show (if _ ∧ a.y + (row + 1) ≤ y then _ else _) ∘ (if _ ∧ y = a.y + row then _ else _) = _
    by_cases hplace : a.x ≤ x ∧ x < a.x + a.width
    · rcases Nat.lt_trichotomy y (a.y + row) with habove | hat | hbelow
      · rw [if_neg (by omega), if_neg (by omega), if_neg (by omega), Function.comp_id]
      · rw [if_neg (by omega), if_pos ⟨hplace, hat⟩, if_pos ⟨hplace, by omega⟩, hat, Nat.sub_self]
        rfl
      · obtain ⟨i, rfl⟩ := Nat.exists_eq_add_of_lt hbelow
        have hindex : a.y + row + i + 1 - (a.y + row) = i + 1 := by omega
        have hindex' : a.y + row + i + 1 - (a.y + (row + 1)) = i := by omega
        rw [if_pos ⟨hplace, by omega⟩, if_neg (by omega), if_pos ⟨hplace, by omega⟩, hindex,
          hindex', Function.comp_id]
        rfl
    · rw [if_neg (fun h => hplace h.1), if_neg (fun h => hplace h.1),
        if_neg (fun h => hplace h.1), Function.comp_id]

/-- An area shows as many lines as it has rows. -/
theorem changes_linesIn (g : Grid) (a : Area) (alignment : Alignment) (lines : List Line) :
  Changes g (g.linesIn a alignment lines) fun x y =>
    if a.Contains x y then linesChange a.width alignment lines (x - a.x) (y - a.y) else id
  := by
  rw [linesIn]
  split
  · next hempty =>
    apply (Changes.refl g).of_eq
    intro x y
    rw [if_neg]
    simp only [Area.isEmpty, Bool.or_eq_true, decide_eq_true_iff] at hempty
    rw [Area.Contains]
    omega
  · apply (changes_foldl_line g a alignment _ 0).of_eq
    intro x y
    rw [Nat.add_zero]
    by_cases hplace : a.Contains x y
    · rw [if_pos ⟨hplace.1, hplace.2.1⟩, if_pos hplace, linesChange, linesChange,
        List.getElem?_take_of_lt]
      have hrow := hplace.2
      omega
    · rw [if_neg hplace]
      split
      · next hcolumn =>
        have hrow : (lines.take a.height)[y - a.y]? = none := by
          rw [List.getElem?_eq_none]
          rw [List.length_take]
          simp only [Area.Contains] at hplace
          omega
        rw [linesChange, hrow]
      · rfl

/-- What a paragraph does to the cell at a place. -/
def paragraphChange (a : Area) (style frame : Style) (border : Padding) (alignment : Alignment)
    (lines : List Line) (x y : Nat) : ScreenCell → ScreenCell :=
  let inner := a.padded border
  if a.Contains x y then
    fun cell =>
      let ground := (cell.restyle style).restyle frame
      if inner.Contains x y then
        linesChange inner.width alignment lines (x - inner.x) (y - inner.y) (ground.restyle style)
      else ground
  else id

/-- A paragraph leaves the cells outside of its area as they are. -/
theorem paragraphChange_eq_id
    {a : Area} {style frame : Style} {border : Padding} {alignment : Alignment}
    {lines : List Line} {x y : Nat} (h : ¬a.Contains x y) :
  paragraphChange a style frame border alignment lines x y = id
  := if_neg h

/-- A paragraph changes the cells of its area: each gets the styles, and within the border the
lines are written over that. -/
theorem changes_paragraph
    (g : Grid) (a : Area) (style frame : Style) (border : Padding) (alignment : Alignment)
    (lines : List Line) :
  Changes g (g.paragraph a style frame border alignment lines)
    (paragraphChange a style frame border alignment lines)
  := by
  have hpaint := fun (g : Grid) (a : Area) (style : Style) =>
    changes_modifyArea g a fun cell => cell.restyle style
  rw [paragraph]
  apply ((((hpaint _ _ _).trans (hpaint _ _ _)).trans (hpaint _ _ _)).trans
    (changes_linesIn _ _ _ _)).of_eq
  intro x y
  rw [paragraphChange]
  by_cases hinner : (a.padded border).Contains x y
  · simp only [if_pos hinner, if_pos hinner.of_padded]
    rfl
  · simp only [if_neg hinner]
    split
    · rfl
    · rfl

end Grid

/-! ### Rows -/

/-- The cells of a row of a width that shows a line from its left end on, over cells that all look
like the ground. -/
def Line.rowCells (l : Line) (ground : ScreenCell) (width : Nat) : List ScreenCell :=
  ((Grid.strokes (Grid.fit width 0 (Grid.glyphs {} l))).map (· ground)).rightpad width ground

theorem Line.getElem?_rowCells
    (l : Line) (ground : ScreenCell) {width x : Nat} (h : x < width) :
  (l.rowCells ground width)[x]? = some (Grid.lineChange width .left {} l x ground)
  := by
  rw [Grid.lineChange_left, rowCells, List.rightpad, List.getElem?_append, List.length_map,
    List.getElem?_map, List.getElem?_replicate]
  split
  · next hchanged => rw [List.getElem?_eq_getElem hchanged, Option.map_some, Option.getD_some]
  · rw [List.getElem?_eq_none (by omega), if_pos (by omega), Option.getD_none, id]

/-- Lines below each other do to the cells of each row what the line of that row does, and to the
cells below them what an empty line does. -/
theorem Grid.linesChange_eq_lineChange
    (width : Nat) (lines : List Line) (x y : Nat) :
  linesChange width .left lines x y = lineChange width .left {} (lines[y]?.getD .empty) x
  := by
  rw [linesChange]
  cases lines[y]? with
  | some l => rfl
  | none => rfl

/-- Within its border, a paragraph shows its lines one after another, and nothing below them. -/
theorem Grid.paragraphChange_inner
    (a : Area) (style frame : Style) (border : Padding) (lines : List Line) (cell : ScreenCell)
    (x row : Nat) (hx : x < (a.padded border).width) (hrow : row < (a.padded border).height) :
  some (paragraphChange a style frame border .left lines ((a.padded border).x + x)
      ((a.padded border).y + row) cell)
    = ((lines[row]?.getD .empty).rowCells (((cell.restyle style).restyle frame).restyle style)
        (a.padded border).width)[x]?
  := by
  have hinner : (a.padded border).Contains ((a.padded border).x + x)
      ((a.padded border).y + row) :=
    ⟨⟨Nat.le_add_right _ _, Nat.add_lt_add_left hx _⟩, Nat.le_add_right _ _,
      Nat.add_lt_add_left hrow _⟩
  simp only [paragraphChange, if_pos hinner.of_padded, if_pos hinner]
  rw [Nat.add_sub_cancel_left, Nat.add_sub_cancel_left, linesChange_eq_lineChange,
    Line.getElem?_rowCells _ _ hx]

end TaskConsole
