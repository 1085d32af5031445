import Mathlib.Algebra.Order.BigOperators.Group.List
import Mathlib.Algebra.Order.Ring.Nat
import TaskConsole.Proofs.Screen.Grid

/-!
# What a row reads

A row reads as texts next to each other if each of their clusters that takes columns stands behind
the columns of those before it, as far as there is room, and the cells behind the last one are blank
(`RowReads`).  That says nothing of how the texts are drawn.  A row that shows a line reads as the
texts of its spans (`Line.rowReads_rowCells`): the clusters in front of one that has room have room
as well (`Grid.fit_append`), and those that are left out do not take more columns than there were.
-/

namespace TaskConsole

/-- The clusters of texts next to each other; line feeds are left out. -/
def Text.clustersOf (texts : List String) : List (List Char) :=
  texts.flatMap fun text => (clusters text.toList).filter fun cluster => cluster != ['\n']

theorem Text.clustersOf_append (texts texts' : List String) :
  clustersOf (texts ++ texts') = clustersOf texts ++ clustersOf texts'
  := List.flatMap_append

/-- The number of columns of clusters next to each other. -/
def Text.sumColumns (clusters : List (List Char)) : Nat := (clusters.map columnsOf).sum

/-- Whether a row reads as texts from a place on, as far as there is room for them in a width. -/
structure RowReads (row : List ScreenCell) (place width : Nat) (texts : List String) : Prop where
  cluster : ∀ front cluster back, Text.clustersOf texts = front ++ cluster :: back →
    0 < Text.columnsOf cluster → Text.sumColumns front + Text.columnsOf cluster ≤ width →
    row[place + Text.sumColumns front]?.map ScreenCell.symbol = some cluster
  blank : ∀ x < width, Text.sumColumns (Text.clustersOf texts) ≤ x →
    row[place + x]?.map ScreenCell.symbol = some [' ']

/-- What a row reads is known from its cells in the width. -/
theorem RowReads.of_cells {row cells : List ScreenCell} {place width : Nat} {texts : List String}
    (h : RowReads cells 0 width texts) (hcells : ∀ x < width, row[place + x]? = cells[x]?) :
  RowReads row place width texts
  := by
  constructor
  · intro front cluster back hparts hcolumns hfits
    have hcell := h.cluster front cluster back hparts hcolumns hfits
    rw [Nat.zero_add] at hcell
    rw [hcells _ (by omega), hcell]
  · intro x hx hbehind
    have hcell := h.blank x hx hbehind
    rw [Nat.zero_add] at hcell
    rw [hcells x hx, hcell]

namespace Grid

theorem glyphColumns_eq (glyphs : List Glyph) :
  glyphColumns glyphs = Text.sumColumns (glyphs.map Prod.fst)
  := by
  induction glyphs with
  | nil => rfl
  | cons glyph glyphs ih =>
    rw [List.map_cons, Text.sumColumns, List.map_cons, List.sum_cons, ← Text.sumColumns, ← ih]
    rfl

theorem glyphColumns_append (glyphs glyphs' : List Glyph) :
  glyphColumns (glyphs ++ glyphs') = glyphColumns glyphs + glyphColumns glyphs'
  := by
  rw [glyphColumns_eq, glyphColumns_eq, glyphColumns_eq, Text.sumColumns, Text.sumColumns,
    Text.sumColumns, List.map_append, List.map_append, List.sum_append]

theorem glyphColumns_le_of_sublist {glyphs glyphs' : List Glyph} (h : glyphs.Sublist glyphs') :
  glyphColumns glyphs ≤ glyphColumns glyphs'
  := by
  rw [glyphColumns_eq, glyphColumns_eq]
  apply ((h.map Prod.fst).map Text.columnsOf).sum_le_sum
  intro columns _
  apply Nat.zero_le

/-- The clusters of a line are those of its texts. -/
theorem map_fst_glyphs (base : Style) (l : Line) :
  (glyphs base l).map Prod.fst = Text.clustersOf (l.spans.map Span.text)
  := by
  rw [glyphs, Text.clustersOf, List.map_flatMap, List.flatMap_map]
  congr 1
  funext span
  rw [List.map_map]
  apply List.map_id

theorem fit_sublist (width used : Nat) (glyphs : List Glyph) :
  (fit width used glyphs).Sublist glyphs
  := by
  induction glyphs generalizing used with
  | nil => exact List.Sublist.slnil
  | cons glyph glyphs ih =>
    rw [fit]
    split
    · exact (ih used).cons glyph
    split
    · apply List.nil_sublist
    · exact (ih _).cons_cons glyph

/-- Clusters for which there is room are shown in front of what is shown of the other ones. -/
theorem fit_append {width used : Nat} {front : List Glyph}
    (h : used + glyphColumns front ≤ width) (back : List Glyph) :
  fit width used (front ++ back) = front ++ fit width (used + glyphColumns front) back
  := by
  induction front generalizing used with
  | nil => rfl
  | cons glyph front ih =>
    have hcons : glyphColumns (glyph :: front)
        = Text.columnsOf glyph.1 + glyphColumns front := rfl
    rw [hcons, ← Nat.add_assoc] at h ⊢
    rw [List.cons_append, fit, if_neg (by omega), if_neg (by omega), ih h, List.cons_append]

/-- A cluster is put into the cell behind the columns of those before it. -/
theorem getElem?_strokes_append (front : List Glyph) {glyph : Glyph}
    (h : 0 < Text.columnsOf glyph.1) (back : List Glyph) :
  (strokes (front ++ glyph :: back))[glyphColumns front]?
    = some fun cell => { cell with symbol := glyph.1 }.restyle glyph.2
  := by
  have hplace : (front.flatMap stroke).length = glyphColumns front := length_strokes front
  rw [strokes, List.flatMap_append, List.getElem?_append_right (Nat.le_of_eq hplace), hplace,
    Nat.sub_self, List.flatMap_cons, stroke]
  split
  · next hnone => exact absurd hnone h.ne'
  · rfl

end Grid

namespace Line

open Grid

variable (l : Line) (ground : ScreenCell) {width : Nat}

theorem length_rowCells :
  (l.rowCells ground width).length = width
  := by
  have hfits := glyphColumns_fit (glyphs {} l) (Nat.zero_le width)
  rw [rowCells, List.length_rightpad, List.length_map, length_strokes]
  omega

/-- A cluster for which there is room stands behind the columns of those before it. -/
theorem getElem?_rowCells_cluster {front back : List Glyph} {glyph : Glyph}
    (hglyphs : glyphs {} l = front ++ glyph :: back) (hcolumns : 0 < Text.columnsOf glyph.1)
    (hfits : glyphColumns front + Text.columnsOf glyph.1 ≤ width) :
  (l.rowCells ground width)[glyphColumns front]?
    = some ({ ground with symbol := glyph.1 }.restyle glyph.2)
  := by
  have hroom : 0 + glyphColumns (front ++ [glyph]) ≤ width := by
    have hsingle : glyphColumns [glyph] = Text.columnsOf glyph.1 := rfl
    rw [glyphColumns_append, hsingle]
    omega
  rw [getElem?_rowCells l ground (by omega), lineChange_left, hglyphs, List.append_cons,
    fit_append hroom back, ← List.append_cons, getElem?_strokes_append front hcolumns]
  rfl

/-- Behind the columns of a line its row shows the ground. -/
theorem getElem?_rowCells_behind {x : Nat} (hx : x < width)
    (hbehind : glyphColumns (glyphs {} l) ≤ x) :
  (l.rowCells ground width)[x]? = some ground
  := by
  have hshown : (strokes (fit width 0 (glyphs {} l))).length ≤ x := by
    rw [length_strokes]
    exact (glyphColumns_le_of_sublist (fit_sublist ..)).trans hbehind
  rw [getElem?_rowCells l ground hx, lineChange_left, List.getElem?_eq_none hshown]
  rfl

/-- A row that shows a line on blank ground reads as its texts. -/
theorem rowReads_rowCells {ground : ScreenCell} (hground : ground.symbol = [' ']) (width : Nat) :
  RowReads (l.rowCells ground width) 0 width (l.spans.map Span.text)
  := by
  constructor
  · intro front cluster back hparts hcolumns hfits
    rw [← map_fst_glyphs {} l, List.map_eq_append_iff] at hparts
    obtain ⟨front, rest, hglyphs, rfl, hrest⟩ := hparts
    obtain ⟨glyph, back, rfl, rfl, -⟩ := List.map_eq_cons_iff.mp hrest
    rw [← glyphColumns_eq] at hfits
    rw [Nat.zero_add, ← glyphColumns_eq, getElem?_rowCells_cluster l ground hglyphs hcolumns hfits]
    rfl
  · intro x hx hbehind
    rw [← map_fst_glyphs {} l, ← glyphColumns_eq] at hbehind
    rw [Nat.zero_add, getElem?_rowCells_behind l ground hx hbehind, Option.map_some, hground]

end Line

end TaskConsole
