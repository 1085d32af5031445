import TaskConsole.Proofs.Styled.Pieces
import TaskConsole.Screen.Area

/-!
# Words in wrapped lines

A word that fits into a row is not taken apart (`Wrap.Broken.exists_row_of_word`), and a row is left
only when what comes next, a whole word where one starts and a single cell elsewhere, has no room in
it (`Wrap.Broken.lt_of_break`).  So lines are wrapped in all widths that a feed has
(`Line.wrap_is_greedy`).
-/

namespace TaskConsole

namespace Wrap

/-! ### Words -/

/-- The word at the front of cells, without cells if a blank one stands there. -/
def word (cells : List Cell) : List Cell := cells.takeWhile fun cell => !Text.isBlank cell.1

/-- Whether cells are a whole word of the text in which they stand: no cell of theirs is blank, and
the cells next to them, if there are any, are. -/
structure IsWord (before word after : List Cell) : Prop where
  ne_nil : word ≠ []
  inked : ∀ cell ∈ word, Text.isBlank cell.1 = false
  front : ∀ cell ∈ before.getLast?, Text.isBlank cell.1
  back : ∀ cell ∈ after.head?, Text.isBlank cell.1

/-- Whether a word starts behind some cells and in front of others. -/
def StartsWord (before after : List Cell) : Prop :=
  (∀ cell ∈ before.getLast?, Text.isBlank cell.1)
    ∧ ∃ cell ∈ after.head?, Text.isBlank cell.1 = false

instance (before after : List Cell) : Decidable (StartsWord before after) :=
  inferInstanceAs (Decidable (_ ∧ _))

/-- The number of cells that come next: those of the whole word where one starts, and a single one
elsewhere. -/
def nextLength (before after : List Cell) : Nat :=
  if StartsWord before after then (word after).length else 1

namespace IsWord

variable {before cells after : List Cell} (h : IsWord before cells after)

include h

/-- A whole word is the word at the front of what it begins. -/
theorem word_append :
  word (cells ++ after) = cells
  := by
  rw [word, List.takeWhile_append_of_pos]
  · cases after with
    | nil => rw [List.takeWhile_nil, List.append_nil]
    | cons cell after =>
      rw [List.takeWhile_cons_of_neg, List.append_nil]
      rw [h.back cell rfl]
      decide
  · intro cell hcell
    rw [h.inked cell hcell]
    rfl

/-- No cell of a word is a space. -/
theorem isSpace_of_mem {cell : Cell} (hcell : cell ∈ cells) :
  isSpace cell = false
  := by
  have hink := h.inked cell hcell
  rw [isSpace, decide_eq_false_iff_not]
  intro hspace
  rw [hspace] at hink
  exact absurd hink (by decide)

omit h in
/-- A whole word of a text is one of its end. -/
theorem of_append {front : List Cell} (h : IsWord (front ++ before) cells after) :
  IsWord before cells after
  := by
  refine ⟨h.ne_nil, h.inked, ?_, h.back⟩
  intro cell hcell
  apply h.front
  rw [List.getLast?_append, Option.mem_def.mp hcell]
  rfl

/-- A whole word behind spaces has all of them in front. -/
theorem exists_of_gap {gap rest behind : List Cell} (hgap : ∀ cell ∈ gap, isSpace cell)
    (hcells : gap ++ rest = behind ++ (cells ++ after)) :
  ∃ front, behind = gap ++ front ∧ rest = front ++ (cells ++ after)
  := by
  rcases List.append_eq_append_iff.mp hcells with ⟨front, hbehind, hrest⟩ | ⟨more, hmore, hword⟩
  · exact ⟨front, hbehind, hrest⟩
  · cases more with
    | nil => exact ⟨[], by rw [hmore, List.append_nil, List.append_nil], hword.symm⟩
    | cons cell more =>
      exfalso
      obtain ⟨first, others, rfl⟩ := List.exists_cons_of_ne_nil h.ne_nil
      have hink := h.isSpace_of_mem List.mem_cons_self
      rw [(List.cons.inj hword).1, hgap cell] at hink
      · cases hink
      · rw [hmore]
        exact List.mem_append_right _ List.mem_cons_self

end IsWord

/-- Something comes next. -/
theorem nextLength_pos (before after : List Cell) :
  0 < nextLength before after
  := by
  rw [nextLength]
  split
  · next hstarts =>
    obtain ⟨cell, hcell, hink⟩ := hstarts.2
    cases after with
    | nil => cases hcell
    | cons first after =>
      rw [word, List.takeWhile_cons_of_pos]
      · exact Nat.succ_pos _
      · rw [Option.some.inj hcell, hink]
        rfl
  · exact Nat.one_pos

/-- What comes next hangs on the last cell in front of it. -/
theorem nextLength_append {cells : List Cell} (h : cells ≠ []) (before after : List Cell) :
  nextLength (before ++ cells) after = nextLength cells after
  := by
  have hstarts : StartsWord (before ++ cells) after ↔ StartsWord cells after := by
    rw [StartsWord, StartsWord, List.getLast?_append_of_ne_nil _ h]
  exact if_congr hstarts rfl rfl

/-! ### Rows that are left -/

/-- A row with cells is left before a word that goes beyond the width there and would not do so in
a row of its own. -/
theorem leavesBefore_iff {width : Nat} {row rest : List Cell} :
  leavesBefore width row.length row.getLast? rest = true
    ↔ row ≠ [] ∧ StartsWord row rest ∧ wordLength rest ≤ width
      ∧ width < min columnCap (row.length + wordLength rest)
  := by
  cases rest with
  | nil => simp [leavesBefore, StartsWord]
  | cons cell rest =>
    rcases List.eq_nil_or_concat' row with rfl | ⟨front, last, rfl⟩
    · simp [leavesBefore]
    · simp [leavesBefore, StartsWord, and_assoc, and_left_comm]

/-- A row that is left has no room for what comes next. -/
theorem Leaves.lt {width : Nat} {row rest : List Cell} (h : Leaves width row rest) :
  width < row.length + nextLength row rest
  := by
  rcases h with hword | hfull
  · obtain ⟨-, hstarts, -, hlt⟩ := leavesBefore_iff.mp hword
    have hlength : wordLength rest ≤ (word rest).length := Nat.mod_le _ _
    rw [nextLength, if_pos hstarts]
    omega
  · have hnext := nextLength_pos row rest
    omega

/-- A row that is left where no word starts is full. -/
theorem Leaves.full {width : Nat} {row rest : List Cell} (h : Leaves width row rest)
    (hstarts : ¬ StartsWord row rest) :
  width ≤ row.length
  := by
  rcases h with hword | hfull
  · exact absurd (leavesBefore_iff.mp hword).2.1 hstarts
  · exact hfull

/-- No word starts with a space. -/
theorem not_startsWord_space {cell : Cell} (h : isSpace cell) (before after : List Cell) :
  ¬ StartsWord before (cell :: after)
  := by
  rintro ⟨-, first, hfirst, hink⟩
  rw [← Option.some.inj hfirst, of_decide_eq_true h] at hink
  exact absurd hink (by decide)

/-- No word starts within one. -/
theorem not_startsWord_within {before front back after : List Cell}
    (h : IsWord before (front ++ back) after) (hfront : front ≠ []) (rest : List Cell) :
  ¬ StartsWord (before ++ front) rest
  := by
  intro hstarts
  have hlast := List.getLast_mem hfront
  have hblank := hstarts.1 (front.getLast hfront) (by
    rw [List.getLast?_append_of_ne_nil _ hfront, List.getLast?_eq_some_getLast hfront]
    rfl)
  rw [h.inked _ (List.mem_append_left _ hlast)] at hblank
  cases hblank

/-- A row is not left within a word that would fit into a row. -/
theorem not_leaves_within {width : Nat} (hcap : width < columnCap)
    {before front back after : List Cell} (hword : IsWord before (front ++ back) after)
    (hlength : (front ++ back).length ≤ width) (hfront : front ≠ []) (hback : back ≠ [])
    (hkeeps : Keeps width (before ++ front) (back ++ after)) :
  ¬ Leaves width (before ++ front) (back ++ after)
  := by
  intro hleaves
  have hfull := hleaves.full (not_startsWord_within hword hfront _)
  have hsome : 0 < back.length := List.length_pos_iff.mpr hback
  rw [List.length_append] at hlength hfull
  have hbefore : before ≠ [] := by
    rintro rfl
    rw [List.length_nil] at hfull
    omega
  -- the word goes beyond the width, so the row would have been left before it
  apply hkeeps before front rfl hbefore hfront
  left
  have hwhole : wordLength (front ++ (back ++ after)) = front.length + back.length := by
    have heq := congrArg List.length hword.word_append
    rw [List.append_assoc, List.length_append] at heq
    have hmodulus : front.length + back.length < wordModulus := by
      rw [columnCap] at hcap
      rw [wordModulus]
      omega
    rw [wordLength, ← word, heq, Nat.mod_eq_of_lt hmodulus]
  rw [leavesBefore_iff, hwhole]
  refine ⟨hbefore, ⟨hword.front, ?_⟩, hlength, by omega⟩
  obtain ⟨cell, others, rfl⟩ := List.exists_cons_of_ne_nil hfront
  exact ⟨cell, rfl, hword.inked cell (List.mem_append_left _ List.mem_cons_self)⟩

/-! ### Broken words -/

/-- Where a text is cut, a part of it is in front of the place, or behind it, or cut as well. -/
theorem cut_cases {α : Type} {row rest before cells after : List α}
    (h : row ++ rest = before ++ (cells ++ after)) :
  (∃ back, row = before ++ (cells ++ back))
    ∨ (∃ behind, before = row ++ behind ∧ rest = behind ++ (cells ++ after))
    ∨ ∃ front back, front ≠ [] ∧ back ≠ [] ∧ cells = front ++ back
      ∧ row = before ++ front ∧ rest = back ++ after
  := by
  rcases List.append_eq_append_iff.mp h with ⟨behind, hbefore, hrest⟩ | ⟨within, hrow, hcells⟩
  · exact .inr (.inl ⟨behind, hbefore, hrest⟩)
  rcases List.append_eq_append_iff.mp hcells with ⟨back, hwithin, -⟩ | ⟨back, hcut, hrest⟩
  · exact .inl ⟨back, by rw [hrow, hwithin]⟩
  by_cases hwithin : within = []
  · right
    left
    use []
    rw [hrow, hrest, hcut, hwithin]
    simp
  by_cases hback : back = []
  · left
    use []
    rw [hrow, hcut, hback]
    simp
  · exact .inr (.inr ⟨within, back, hwithin, hback, hcut, hrow, hrest⟩)

/-- The spaces at the back of cells are behind the last one that is no space. -/
theorem rdropWhile_append {cells : List Cell} (hsome : cells ≠ [])
    (hlast : isSpace (cells.getLast hsome) = false) (back : List Cell) :
  (cells ++ back).rdropWhile isSpace = cells ++ back.rdropWhile isSpace
  := by
  induction back using List.reverseRecOn with
  | nil =>
    rw [List.append_nil, List.rdropWhile_nil, List.append_nil, List.rdropWhile_eq_self_iff]
    intro _
    rw [hlast]
    decide
  | append_singleton back cell ih =>
    rw [← List.append_assoc, List.rdropWhile_concat, List.rdropWhile_concat]
    split
    · exact ih
    · rw [List.append_assoc]

namespace Broken

variable {width : Nat} {cells : List Cell} {pieces : List Piece}

/-- Whatever stands in front of a row, it has no room, together with the gap behind it, for what
comes next. -/
theorem lt_of_break (h : Broken width cells pieces) {done more : List Piece} {p p' : Piece}
    (hpieces : pieces = done ++ p :: p' :: more) (before : List Cell) :
  width < p.row.length + p.gap.length
    + nextLength (before ++ p.cells) ((p' :: more).flatMap Piece.cells)
  := by
  induction h generalizing done with
  | last =>
    have hlength := congrArg List.length hpieces
    simp only [List.length_append, List.length_cons, List.length_nil] at hlength
    omega
  | @turn row gap rest pieces hrow hkeeps hleaves hmore hgap hrest hbroken ih =>
    cases done with
    | nil =>
      obtain ⟨rfl, rfl⟩ := List.cons.inj hpieces
      have hlength : (Piece.cut row gap).row.length + (Piece.cut row gap).gap.length
          = row.length + gap.length := by
        have hcells := congrArg List.length (Piece.cells_cut row gap)
        rwa [Piece.cells, List.length_append, List.length_append] at hcells
      have hsome : row ++ gap ≠ [] := List.append_ne_nil_of_left_ne_nil hrow _
      rw [Piece.cells_cut, nextLength_append hsome, hbroken.cells_eq, hlength]
      cases gap with
      | nil =>
        rw [List.append_nil]
        exact hleaves.lt
      | cons cell gap =>
        have hfull := hleaves.full (not_startsWord_space (hgap cell List.mem_cons_self) _ _)
        have hnext := nextLength_pos (row ++ cell :: gap) rest
        rw [List.length_cons]
        omega
    | cons first done => exact ih (List.cons.inj hpieces).2

/-- A word that fits into a row stands in one. -/
theorem exists_row_of_word (hcap : width < columnCap) (h : Broken width cells pieces)
    {before found after : List Cell} (hcells : cells = before ++ (found ++ after))
    (hword : IsWord before found after) (hlength : found.length ≤ width) :
  ∃ done p more front back, pieces = done ++ p :: more
    ∧ before = done.flatMap Piece.cells ++ front ∧ p.row = front ++ (found ++ back)
  := by
  induction h generalizing before with
  | last => exact ⟨[], _, [], before, after, rfl, rfl, hcells⟩
  | @turn row gap rest pieces hrow hkeeps hleaves hmore hgap hrest hbroken ih =>
    rcases cut_cases hcells with
      ⟨back, rfl⟩ | ⟨behind, rfl, hbehind⟩ | ⟨front, back, hfront, hback, rfl, rfl, hrest'⟩
    · have hlast : isSpace ((before ++ found).getLast
          (List.append_ne_nil_of_right_ne_nil _ hword.ne_nil)) = false := by
        rw [List.getLast_append_of_ne_nil _ hword.ne_nil]
        exact hword.isSpace_of_mem (List.getLast_mem hword.ne_nil)
      refine ⟨[], _, pieces, before, back.rdropWhile isSpace, rfl, rfl, ?_⟩
      rw [Piece.cut, ← List.append_assoc, ← List.append_assoc]
      exact rdropWhile_append _ hlast back
    · obtain ⟨front, rfl, rfl⟩ := hword.exists_of_gap hgap hbehind
      rw [← List.append_assoc] at hword
      obtain ⟨done, p, more, front', back, hpieces, hfront, hfound⟩ := ih rfl hword.of_append
      refine ⟨Piece.cut row gap :: done, p, more, front', back, ?_, ?_, hfound⟩
      · rw [hpieces, List.cons_append]
      · rw [hfront, List.flatMap_cons, Piece.cells_cut, List.append_assoc, List.append_assoc]
    · rw [hrest'] at hkeeps hleaves
      exact absurd hleaves (not_leaves_within hcap hword hlength hfront hback hkeeps)

end Broken

end Wrap

open Wrap

/-- A feed has from 1 to 65533 columns. -/
theorem Viewport.feedWidth_bounds (columns rows : UInt16) :
  0 < (ofScreen columns.toNat rows.toNat).feedWidth
    ∧ (ofScreen columns.toNat rows.toNat).feedWidth ≤ 65533
  := by
  have hcolumns : columns.toNat < 65536 := columns.toNat_lt
  simp only [ofScreen, feedPadding]
  omega

/-- In every width that a feed can have, a line is wrapped into the rows of pieces, each a row with
a gap of spaces behind it, such that every whole word of the line that is no longer than the width
stands in one row, and that what comes next behind a row and its gap, the whole word where one
starts and a single character elsewhere, would make them longer than the width. -/
theorem Line.wrap_is_greedy (line : Line) (columns rows : UInt16) :
  let width := (Viewport.ofScreen columns.toNat rows.toNat).feedWidth
  ∃ pieces : List Piece,
    pieces.flatMap (fun p => p.row ++ p.gap) = line.shown
      ∧ (line.wrap width).map Line.shown = pieces.map Piece.row
      ∧ (∀ p ∈ pieces, ∀ cell ∈ p.gap, cell.1 = ' ')
      ∧ (∀ before found after, line.shown = before ++ (found ++ after) →
        IsWord before found after → found.length ≤ width →
        ∃ done p more front back, pieces = done ++ p :: more
          ∧ before = done.flatMap Piece.cells ++ front ∧ p.row = front ++ (found ++ back))
      ∧ ∀ done p p' more, pieces = done ++ p :: p' :: more →
        width < p.row.length + p.gap.length
          + nextLength (done.flatMap Piece.cells ++ p.cells) ((p' :: more).flatMap Piece.cells)
  := by
  intro width
  obtain ⟨hpos, hle⟩ := Viewport.feedWidth_bounds columns rows
  have hcap : width < columnCap := Nat.lt_of_le_of_lt hle (by decide)
  obtain ⟨pieces, hbroken, hrows⟩ := line.exists_broken_wrap (Nat.le_of_lt hcap)
  rw [Nat.max_eq_left hpos] at hbroken
  use pieces, hbroken.cells_eq, hrows
  constructor
  · intro p hp cell hcell
    exact of_decide_eq_true (hbroken.isSpace_of_mem_gap hp hcell)
  constructor
  · intro before found after hcells hword hlength
    exact hbroken.exists_row_of_word hcap hcells hword hlength
  · intro done p p' more hpieces
    exact hbroken.lt_of_break hpieces _

/-- A word that goes beyond the width, but would fit into a row, gets one of its own; one that
would not fit fills up the row in which it starts. -/
example :
  ((Line.ofText "one three").wrap 6).map Line.text = ["one", "three"]
    ∧ ((Line.ofText "one thirteen").wrap 6).map Line.text = ["one th", "irteen"]
  := by decide +kernel

end TaskConsole
