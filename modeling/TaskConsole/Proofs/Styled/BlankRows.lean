import TaskConsole.Proofs.Styled.Words

/-!
# Blank rows of wrapped lines

Cells are broken in one way only (`Wrap.Broken.unique`).  So whether the first row has nothing but
spaces can be told from the front of the cells (`Wrap.StrandsIndent`), whether the last one has
from the last row of the cells without the spaces at their back (`Wrap.StrandsTail`), and the rows
between always have more (`Wrap.Broken.row_isSpace_iff`).  For a line that has more than spaces,
this says which rows are blank (`Line.blank_row_iff_stranded`).
-/

namespace TaskConsole

namespace Wrap

/-! ### One way of breaking -/

/-- A row that is kept is not longer than one of the same cells that is left. -/
theorem Keeps.prefix_of_leaves {width : Nat} {row rest row' rest' : List Cell}
    (h : Keeps width row rest) (hleaves : Leaves width row' rest') (hrow' : row' ≠ [])
    (hcells : row ++ rest = row' ++ rest') :
  row <+: row'
  := by
  rcases List.append_eq_append_iff.mp hcells with ⟨more, hmore, -⟩ | ⟨back, hback, hrest'⟩
  · exact ⟨more, hmore.symm⟩
  · by_cases hnil : back = []
    · use []
      rw [hback, hnil, List.append_nil, List.append_nil]
    · rw [hrest'] at hleaves
      exact absurd hleaves (h row' back hback hrow' hnil)

/-- Spaces in front of something else are those that cells begin with. -/
theorem takeWhile_gap_append {gap rest : List Cell} (hgap : ∀ cell ∈ gap, isSpace cell)
    (hrest : ∀ cell ∈ rest.head?, isSpace cell = false) :
  (gap ++ rest).takeWhile isSpace = gap
  := by
  rw [List.takeWhile_append_of_pos hgap]
  cases rest with
  | nil => exact List.append_nil gap
  | cons cell rest =>
    rw [List.takeWhile_cons_of_neg (by rw [hrest cell rfl]; decide), List.append_nil]

/-- Spaces in front of something else are so in one way only. -/
theorem gap_unique {gap rest gap' rest' : List Cell} (hcells : gap ++ rest = gap' ++ rest')
    (hgap : ∀ cell ∈ gap, isSpace cell) (hrest : ∀ cell ∈ rest.head?, isSpace cell = false)
    (hgap' : ∀ cell ∈ gap', isSpace cell) (hrest' : ∀ cell ∈ rest'.head?, isSpace cell = false) :
  gap = gap' ∧ rest = rest'
  := by
  have hsame : gap = gap' := by
    rw [← takeWhile_gap_append hgap hrest, hcells, takeWhile_gap_append hgap' hrest']
  rw [hsame] at hcells
  exact ⟨hsame, List.append_cancel_left hcells⟩

namespace Broken

variable {width : Nat} {cells : List Cell} {pieces : List Piece}

/-- Cells are broken in one way only. -/
theorem unique (h : Broken width cells pieces) {pieces' : List Piece}
    (h' : Broken width cells pieces') :
  pieces = pieces'
  := by
  generalize hcells : cells = cells' at h'
  induction h generalizing cells' pieces' with
  | @last row hkeeps =>
    cases h' with
    | last => rw [hcells]
    | @turn row' gap' rest' pieces' hrow' hkeeps' hleaves' hmore' =>
      exfalso
      rw [← List.append_nil row] at hcells
      have hle := (hkeeps.prefix_of_leaves hleaves' hrow' hcells).length_le
      have hlength := congrArg List.length hcells
      have hsome := List.length_pos_iff.mpr hmore'
      rw [List.append_nil, List.length_append] at hlength
      omega
  | @turn row gap rest pieces hrow hkeeps hleaves hmore hgap hrest hbroken ih =>
    cases h' with
    | last hkeeps' =>
      exfalso
      rw [← List.append_nil cells'] at hcells
      have hle := (hkeeps'.prefix_of_leaves hleaves hrow hcells.symm).length_le
      have hlength := congrArg List.length hcells
      have hsome := List.length_pos_iff.mpr hmore
      rw [List.append_nil, List.length_append] at hlength
      omega
    | @turn row' gap' rest' pieces' hrow' hkeeps' hleaves' hmore' hgap' hrest' hbroken' =>
      have hfront := hkeeps.prefix_of_leaves hleaves' hrow' hcells
      have hfront' := hkeeps'.prefix_of_leaves hleaves hrow hcells.symm
      obtain rfl := hfront.eq_of_length (hfront.length_le.antisymm hfront'.length_le)
      obtain ⟨rfl, rfl⟩ := gap_unique (List.append_cancel_left hcells) hgap hrest hgap' hrest'
      rw [ih _ rfl hbroken']

end Broken

/-! ### Spaces at the front -/

/-- Without the spaces at its back a row has nothing but spaces only if it had nothing else. -/
theorem forall_isSpace_rdropWhile_iff {row : List Cell} :
  (∀ cell ∈ row.rdropWhile isSpace, isSpace cell) ↔ ∀ cell ∈ row, isSpace cell
  := by
  constructor
  · intro hspaces
    rw [← List.rdropWhile_eq_nil_iff]
    by_contra hsome
    exact List.rdropWhile_last_not isSpace row hsome (hspaces _ (List.getLast_mem hsome))
  · intro hspaces cell hcell
    exact hspaces cell ((List.rdropWhile_prefix _ _).subset hcell)

/-- A row that is left where spaces follow is left behind them too. -/
theorem Leaves.past_spaces {width : Nat} {row spaces rest : List Cell}
    (h : Leaves width row (spaces ++ rest)) (hspaces : ∀ cell ∈ spaces, isSpace cell) :
  Leaves width (row ++ spaces) rest
  := by
  cases spaces with
  | nil =>
    rw [List.append_nil]
    exact h
  | cons cell spaces =>
    have hfull := h.full (not_startsWord_space (hspaces cell List.mem_cons_self) _ _)
    right
    rw [List.length_append]
    omega

/-- The first row has nothing but spaces exactly if the spaces at the front of the cells, with
something else behind them, are a row that is left there. -/
theorem Broken.first_row_iff {width : Nat} {indent rest : List Cell} {p : Piece}
    {more : List Piece} (h : Broken width (indent ++ rest) (p :: more))
    (hindent : ∀ cell ∈ indent, isSpace cell) {first : Cell} (hfirst : first ∈ rest.head?)
    (hink : isSpace first = false) :
  (∀ cell ∈ p.row, isSpace cell) ↔ indent ≠ [] ∧ Leaves width indent rest
  := by
  have hmem : first ∈ rest := List.mem_of_head? hfirst
  have hnot : ∀ {row : List Cell}, first ∈ row → ¬∀ cell ∈ row, isSpace cell := by
    intro row hrow hspaces
    rw [hspaces first hrow] at hink
    cases hink
  generalize hcells : indent ++ rest = cells at h
  cases h with
  | last hkeeps =>
    rw [← hcells] at hkeeps ⊢
    apply iff_of_false (hnot (List.mem_append_right _ hmem))
    rintro ⟨hsome, hleaves⟩
    rw [← List.append_nil rest] at hleaves
    exact hkeeps indent rest rfl hsome (List.ne_nil_of_mem hmem) hleaves
  | @turn row gap behind pieces hrow hkeeps hleaves hmore hgap hbehind hbroken =>
    rw [Piece.cut, forall_isSpace_rdropWhile_iff]
    rcases List.append_eq_append_iff.mp hcells with ⟨back, rfl, rfl⟩ | ⟨back, rfl, hrest⟩
    · cases back with
      | nil =>
        rw [List.append_nil] at hrow hleaves ⊢
        exact iff_of_true hindent ⟨hrow, hleaves⟩
      | cons cell back =>
        -- the row goes beyond the indent, so it is not left at its end
        rw [← Option.some.inj hfirst] at hnot
        apply iff_of_false (hnot (List.mem_append_right _ List.mem_cons_self))
        rintro ⟨hsome, hleft⟩
        exact hkeeps indent (cell :: back) rfl hsome (List.cons_ne_nil _ _) hleft
    · rw [hrest] at hleaves
      apply iff_of_true fun cell hcell => hindent cell (List.mem_append_left _ hcell)
      use List.append_ne_nil_of_left_ne_nil hrow _
      exact hleaves.past_spaces fun cell hcell => hindent cell (List.mem_append_right _ hcell)

/-- Spaces are a row that is left before something else exactly if they fill it, or the word that
follows goes beyond the width there, but would not do so in a row of its own. -/
theorem leaves_spaces_iff {width : Nat} {indent rest : List Cell} {first : Cell}
    (hindent : ∀ cell ∈ indent, isSpace cell) (hsome : indent ≠ []) :
  Leaves width indent (first :: rest)
    ↔ width ≤ indent.length ∨ wordLength (first :: rest) ≤ width
      ∧ width < min columnCap (indent.length + wordLength (first :: rest))
  := by
  rw [Leaves, leavesBefore_iff, or_comm]
  apply or_congr_right'
  intro hroom
  cases hfirst : Text.isBlank first.1 with
  | true =>
    -- no word stands there
    have hlength : wordLength (first :: rest) = 0 := by simp [wordLength, hfirst]
    have hstarts : ¬ StartsWord indent (first :: rest) := by
      rintro ⟨-, cell, hcell, hink⟩
      rw [← Option.some.inj hcell, hfirst] at hink
      cases hink
    rw [hlength]
    constructor
    · exact fun h => absurd h.2.1 hstarts
    · omega
  | false =>
    have hstarts : StartsWord indent (first :: rest) := by
      refine ⟨fun cell hcell => ?_, first, rfl, hfirst⟩
      rw [of_decide_eq_true (hindent cell (List.mem_of_getLast? hcell))]
      rfl
    simp only [ne_eq, hsome, not_false_eq_true, hstarts, true_and]

/-- Whether the spaces at the front of cells are left alone in a row. -/
def StrandsIndent (width : Nat) (cells : List Cell) : Prop :=
  let indent := cells.takeWhile isSpace
  let length := wordLength (cells.dropWhile isSpace)
  indent ≠ [] ∧ (width ≤ indent.length
    ∨ length ≤ width ∧ width < min columnCap (indent.length + length))

instance (width : Nat) (cells : List Cell) : Decidable (StrandsIndent width cells) :=
  inferInstanceAs (Decidable (_ ∧ _))

/-- Of cells that are not all spaces, the first row has nothing but spaces exactly if those at
their front are stranded. -/
theorem Broken.first_row_iff_strandsIndent {width : Nat} {cells : List Cell} {p : Piece}
    {more : List Piece} (h : Broken width cells (p :: more))
    (hink : ∃ cell ∈ cells, isSpace cell = false) :
  (∀ cell ∈ p.row, isSpace cell) ↔ StrandsIndent width cells
  := by
  have hindent : ∀ cell ∈ cells.takeWhile isSpace, isSpace cell :=
    fun cell hcell => List.mem_takeWhile_imp hcell
  have hrest : cells.dropWhile isSpace ≠ [] := by
    obtain ⟨cell, hcell, hnot⟩ := hink
    intro hnil
    rw [List.dropWhile_eq_nil_iff.mp hnil cell hcell] at hnot
    cases hnot
  have hfirst := List.head?_dropWhile_not isSpace cells
  rw [← List.takeWhile_append_dropWhile (p := isSpace) (l := cells)] at h
  rw [StrandsIndent]
  obtain ⟨first, rest, hcells⟩ := List.exists_cons_of_ne_nil hrest
  rw [hcells] at h hfirst ⊢
  rw [h.first_row_iff hindent rfl hfirst]
  exact and_congr_right fun hsome => leaves_spaces_iff hindent hsome

/-! ### Spaces at the back -/

section Spaces

variable {spaces : List Cell} (hspaces : ∀ cell ∈ spaces, isSpace cell)

include hspaces

/-- Spaces behind cells make no word longer. -/
theorem wordLength_append_spaces (cells : List Cell) :
  wordLength (cells ++ spaces) = wordLength cells
  := by
  have hnone : spaces.takeWhile (fun cell => !Text.isBlank cell.1) = [] := by
    cases spaces with
    | nil => rfl
    | cons cell spaces =>
      rw [List.takeWhile_cons_of_neg]
      rw [of_decide_eq_true (hspaces cell List.mem_cons_self)]
      decide
  rw [wordLength, wordLength, List.takeWhile_append, hnone, List.append_nil]
  split
  · next hall => rw [(List.takeWhile_prefix _).eq_of_length hall]
  · rfl

/-- Spaces behind what follows a row make no difference to whether it is left. -/
theorem leaves_append_spaces {width : Nat} {row rest : List Cell} (hrest : rest ≠ []) :
  Leaves width row (rest ++ spaces) ↔ Leaves width row rest
  := by
  obtain ⟨first, rest, rfl⟩ := List.exists_cons_of_ne_nil hrest
  have hstarts : StartsWord row (first :: rest ++ spaces) ↔ StartsWord row (first :: rest) := Iff.rfl
  rw [Leaves, Leaves, leavesBefore_iff, leavesBefore_iff, wordLength_append_spaces hspaces, hstarts]

/-- Nor do they make one to whether it is kept. -/
theorem keeps_append_spaces {width : Nat} {row rest : List Cell} :
  Keeps width row (rest ++ spaces) ↔ Keeps width row rest
  := by
  have hleaves : ∀ front back, back ≠ [] →
      (Leaves width front (back ++ (rest ++ spaces)) ↔ Leaves width front (back ++ rest)) := by
    intro front back hback
    rw [← List.append_assoc]
    exact leaves_append_spaces hspaces (List.append_ne_nil_of_left_ne_nil hback _)
  constructor
  · intro h front back hrow hfront hback hleft
    exact h front back hrow hfront hback ((hleaves front back hback).mpr hleft)
  · intro h front back hrow hfront hback hleft
    exact h front back hrow hfront hback ((hleaves front back hback).mp hleft)

/-- The spaces at the back of a row that is left go to what is behind it. -/
theorem Piece.cut_append_spaces {row : List Cell} (hsome : row ≠ [])
    (hlast : isSpace (row.getLast hsome) = false) (gap : List Cell) :
  cut (row ++ spaces) gap = ⟨row, spaces ++ gap⟩
  := by
  have hrow : (cut (row ++ spaces) gap).row = row := by
    rw [cut, rdropWhile_append hsome hlast, List.rdropWhile_eq_nil_iff.mpr hspaces, List.append_nil]
  have hcells := cells_cut (row ++ spaces) gap
  rw [cells, hrow, List.append_assoc] at hcells
  rw [← List.append_cancel_left hcells]
  exact congrArg (Piece.mk · _) hrow

/-- Spaces behind a last row go to it if it has room for them, and otherwise to no row: then one
without cells follows. -/
theorem Broken.last_append_spaces {width : Nat} {row : List Cell} (hkeeps : row.length ≤ width)
    (hsome : row ≠ []) (hlast : isSpace (row.getLast hsome) = false) :
  Broken width (row ++ spaces)
    (if row.length + spaces.length ≤ width then [⟨row ++ spaces, []⟩]
      else [⟨row, spaces⟩, ⟨[], []⟩])
  := by
  split
  · next hroom =>
    apply Broken.last
    apply keeps_of_length_le
    rw [List.length_append]
    exact hroom
  · next hfull =>
    let taken := spaces.take (width - row.length)
    let beyond := spaces.drop (width - row.length)
    have hbeyond : beyond.length = spaces.length - (width - row.length) := List.length_drop
    have hlength : (row ++ taken).length = width := by
      rw [List.length_append, List.length_take]
      omega
    have hparts : taken ++ beyond = spaces := List.take_append_drop _ _
    have hspaces' : ∀ cell ∈ beyond, isSpace cell := fun cell hcell =>
      hspaces cell (List.mem_of_mem_drop hcell)
    have hbroken : Broken width (row ++ taken ++ (beyond ++ []))
        (Piece.cut (row ++ taken) beyond :: [⟨[], []⟩]) := by
      apply Broken.turn
      · exact List.append_ne_nil_of_left_ne_nil hsome _
      · have hkept : Keeps width (row ++ taken) ([] ++ beyond) :=
          (keeps_append_spaces hspaces').mpr (keeps_of_length_le hlength.le)
        rw [List.append_nil]
        exact hkept
      · exact .inr hlength.ge
      · rw [List.append_nil, ← List.length_pos_iff]
        omega
      · exact hspaces'
      · intro cell hcell
        cases hcell
      · exact .last (keeps_nil _ _)
    rw [Piece.cut_append_spaces (fun cell hcell => hspaces cell (List.mem_of_mem_take hcell)) hsome
      hlast, hparts, List.append_nil, List.append_assoc, hparts] at hbroken
    exact hbroken

/-- Spaces behind cells that end with something else come behind their last row. -/
theorem Broken.append_spaces {width : Nat} (hwidth : 0 < width) {cells : List Cell}
    {pieces : List Piece} (h : Broken width cells pieces) (hsome : cells ≠ [])
    (hlast : isSpace (cells.getLast hsome) = false) :
  ∃ done row, pieces = done ++ [⟨row, []⟩] ∧ (∃ cell ∈ row, isSpace cell = false)
    ∧ Broken width (cells ++ spaces)
      (done ++ if row.length + spaces.length ≤ width then [⟨row ++ spaces, []⟩]
        else [⟨row, spaces⟩, ⟨[], []⟩])
  := by
  induction h with
  | @last row hkeeps =>
    exact ⟨[], row, rfl, ⟨_, List.getLast_mem hsome, hlast⟩,
      last_append_spaces hspaces (hkeeps.length_le hwidth) hsome hlast⟩
  | @turn row gap rest pieces hrow hkeeps hleaves hmore hgap hrest hbroken ih =>
    have hrest' : rest ≠ [] := by
      rintro rfl
      have hback : isSpace ((row ++ (gap ++ [])).getLast hsome) := by
        apply hgap
        rw [List.getLast_append_of_ne_nil _ hmore]
        simp only [List.append_nil] at hmore ⊢
        exact List.getLast_mem hmore
      rw [hlast] at hback
      cases hback
    have hlast' : isSpace (rest.getLast hrest') = false := by
      rw [← hlast, List.getLast_append_of_ne_nil _ hmore, List.getLast_append_of_ne_nil _ hrest']
    obtain ⟨done, last, rfl, hink, hbroken'⟩ := ih hrest' hlast'
    use Piece.cut row gap :: done, last, rfl, hink
    rw [List.append_assoc, List.append_assoc]
    apply Broken.turn hrow
    · rw [← List.append_assoc]
      exact (keeps_append_spaces hspaces).mpr hkeeps
    · rw [← List.append_assoc]
      exact (leaves_append_spaces hspaces hmore).mpr hleaves
    · rw [← List.append_assoc]
      exact List.append_ne_nil_of_left_ne_nil hmore _
    · exact hgap
    · intro cell hcell
      rw [List.head?_append_of_ne_nil _ hrest'] at hcell
      exact hrest cell hcell
    · exact hbroken'

end Spaces

/-- Whether the spaces at the back of cells have no room in the last row of the others. -/
def StrandsTail (width : Nat) (cells : List Cell) : Prop :=
  ∃ row ∈ (rows width (cells.rdropWhile isSpace)).getLast?,
    width < row.length + (cells.rtakeWhile isSpace).length

instance (width : Nat) (cells : List Cell) : Decidable (StrandsTail width cells) :=
  inferInstanceAs (Decidable (∃ _ ∈ _, _))

/-- Of cells that are not all spaces, the last row has nothing but spaces exactly if those at their
back are stranded. -/
theorem Broken.last_row_iff_strandsTail {width : Nat} (hwidth : 0 < width)
    (hcap : width ≤ columnCap) {cells : List Cell} {done : List Piece} {p : Piece}
    (h : Broken width cells (done ++ [p])) (hink : ∃ cell ∈ cells, isSpace cell = false) :
  (∀ cell ∈ p.row, isSpace cell) ↔ StrandsTail width cells
  := by
  have hsome : cells.rdropWhile isSpace ≠ [] := by
    obtain ⟨cell, hcell, hnot⟩ := hink
    intro hnil
    rw [List.rdropWhile_eq_nil_iff.mp hnil cell hcell] at hnot
    cases hnot
  have hlast := Bool.eq_false_iff.mpr (List.rdropWhile_last_not isSpace cells hsome)
  obtain ⟨pieces, hbody, hrows⟩ := exists_broken_rows hwidth hcap (cells.rdropWhile isSpace)
  obtain ⟨front, row, rfl, ⟨cell, hcell, hnot⟩, hbroken⟩ :=
    hbody.append_spaces (fun _ => List.mem_rtakeWhile_imp) hwidth hsome hlast
  rw [List.rdropWhile_append_rtakeWhile] at hbroken
  have hpieces := h.unique hbroken
  have hlastRow : (rows width (cells.rdropWhile isSpace)).getLast? = some row := by
    rw [hrows, List.map_append, List.map_singleton, List.getLast?_concat]
  simp only [StrandsTail, hlastRow, Option.mem_some_iff, exists_eq_left']
  split at hpieces
  · next hroom =>
    obtain ⟨-, hp⟩ := List.append_inj' hpieces rfl
    rw [List.singleton_inj.mp hp]
    apply iff_of_false _ (Nat.not_lt.mpr hroom)
    intro hspaces
    rw [hspaces cell (List.mem_append_left _ hcell)] at hnot
    cases hnot
  · next hfull =>
    have hp := congrArg List.getLast? hpieces
    rw [List.getLast?_concat, List.getLast?_append_of_ne_nil _ (List.cons_ne_nil _ _)] at hp
    rw [Option.some.inj hp]
    exact iff_of_true (fun _ hcell => absurd hcell List.not_mem_nil) (Nat.not_le.mp hfull)

/-! ### Rows between -/

/-- Of cells that do not begin with a space, no row before the last has nothing but spaces. -/
theorem Broken.exists_ink_of_head {width : Nat} {cells : List Cell} {pieces : List Piece}
    (h : Broken width cells pieces) (hfront : ∀ cell ∈ cells.head?, isSpace cell = false)
    {p : Piece} (hp : p ∈ pieces.dropLast) :
  ∃ cell ∈ p.row, isSpace cell = false
  := by
  induction h with
  | last => exact (List.not_mem_nil hp).elim
  | @turn row gap rest pieces hrow hkeeps hleaves hmore hgap hrest hbroken ih =>
    rw [List.dropLast_cons_of_ne_nil hbroken.ne_nil] at hp
    rcases List.mem_cons.mp hp with rfl | hp
    · by_contra! hnone
      obtain ⟨cell, row, rfl⟩ := List.exists_cons_of_ne_nil hrow
      have hspaces : ∀ c ∈ cell :: row, isSpace c :=
        forall_isSpace_rdropWhile_iff.mp fun c hc => Bool.not_eq_false _ ▸ hnone c hc
      have hink := hfront cell rfl
      rw [hspaces cell List.mem_cons_self] at hink
      cases hink
    · exact ih hrest hp

/-- A row between others has more than spaces. -/
theorem Broken.exists_ink_of_between {width : Nat} {cells : List Cell} {before after : List Piece}
    {p : Piece} (h : Broken width cells (before ++ p :: after)) (hbefore : before ≠ [])
    (hafter : after ≠ []) :
  ∃ cell ∈ p.row, isSpace cell = false
  := by
  obtain ⟨first, others, rfl⟩ := List.exists_cons_of_ne_nil hbefore
  rw [List.cons_append] at h
  generalize hpieces : first :: (others ++ p :: after) = pieces at h
  cases h with
  | last =>
    have hlength := congrArg List.length hpieces
    simp only [List.length_append, List.length_cons, List.length_nil] at hlength
    omega
  | turn hrow hkeeps hleaves hmore hgap hrest hbroken =>
    obtain ⟨-, rfl⟩ := List.cons.inj hpieces
    apply hbroken.exists_ink_of_head hrest
    have hdrop : (others ++ p :: after).dropLast = others ++ p :: after.dropLast := by
      rw [List.dropLast_append_of_ne_nil (List.cons_ne_nil _ _),
        List.dropLast_cons_of_ne_nil hafter]
    rw [hdrop]
    exact List.mem_append_right _ List.mem_cons_self

/-- Of cells that are not all spaces, a row has nothing but spaces exactly if it is the first one
and those at their front are stranded, or the last one and those at their back are. -/
theorem Broken.row_isSpace_iff {width : Nat} (hwidth : 0 < width) (hcap : width ≤ columnCap)
    {cells : List Cell} {before after : List Piece} {p : Piece}
    (h : Broken width cells (before ++ p :: after)) (hink : ∃ cell ∈ cells, isSpace cell = false) :
  (∀ cell ∈ p.row, isSpace cell)
    ↔ (before = [] ∧ StrandsIndent width cells) ∨ (after = [] ∧ StrandsTail width cells)
  := by
  have hfirst : before = [] → ((∀ cell ∈ p.row, isSpace cell) ↔ StrandsIndent width cells) := by
    rintro rfl
    exact h.first_row_iff_strandsIndent hink
  have hlast : after = [] → ((∀ cell ∈ p.row, isSpace cell) ↔ StrandsTail width cells) := by
    rintro rfl
    exact h.last_row_iff_strandsTail hwidth hcap hink
  by_cases hbefore : before = []
  · by_cases hafter : after = []
    · have hsame := (hfirst hbefore).symm.trans (hlast hafter)
      simp only [hlast hafter, hsame, hbefore, hafter, true_and, or_self]
    · simp only [hfirst hbefore, hbefore, hafter, true_and, false_and, or_false]
  · by_cases hafter : after = []
    · simp only [hlast hafter, hbefore, hafter, true_and, false_and, false_or]
    · simp only [hbefore, hafter, false_and, or_self, iff_false]
      obtain ⟨cell, hcell, hnot⟩ := h.exists_ink_of_between hbefore hafter
      intro hspaces
      rw [hspaces cell hcell] at hnot
      cases hnot

end Wrap

/-! ### Lines -/

open Wrap

namespace Line

/-- Unless the line fits, its rows show all that they have. -/
theorem shown_of_mem_wrap (line : Line) {width : Nat} (hcap : width ≤ columnCap)
    (hlong : max width 1 < line.shown.length) {row : Line} (hrow : row ∈ line.wrap width) :
  row.shown = row.cells
  := by
  obtain ⟨hcolumns, hcap'⟩ := columns_bounds hcap
  obtain ⟨pieces, hbroken, hrows⟩ := exists_broken_rows hcolumns hcap' line.shown
  have hwrap : line.wrap width
      = (rows (max width 1) line.shown).map fun cells =>
        { spans := spansOf cells, style := line.style } := if_neg (Nat.not_le.mpr hlong)
  rw [hwrap, hrows, List.map_map] at hrow
  obtain ⟨p, hp, rfl⟩ := List.mem_map.mp hrow
  rw [shown, Function.comp_apply, cells_spansOf]
  exact line.filter_of_subset_shown (hbroken.row_subset hp)

/-- A row of a line with ink has nothing but spaces if this is all that it shows. -/
theorem forall_cells_iff_of_mem_wrap (line : Line) {width : Nat} (hcap : width ≤ columnCap)
    (hink : ∃ cell ∈ line.shown, isSpace cell = false) {row : Line}
    (hrow : row ∈ line.wrap width) :
  (∀ cell ∈ row.cells, cell.1 = ' ') ↔ ∀ cell ∈ row.shown, isSpace cell
  := by
  simp only [isSpace, decide_eq_true_iff]
  constructor
  · intro hspaces cell hcell
    exact hspaces cell (List.mem_of_mem_filter hcell)
  · intro hspaces
    by_cases hfits : line.shown.length ≤ max width 1
    · have hwrap : line.wrap width = [line] := if_pos hfits
      rw [hwrap, List.mem_singleton] at hrow
      rw [hrow] at hspaces
      obtain ⟨cell, hcell, hnot⟩ := hink
      exact absurd (hspaces cell hcell) (of_decide_eq_false hnot)
    · rw [← line.shown_of_mem_wrap hcap (Nat.not_le.mp hfits) hrow]
      exact hspaces

/-- What is not all spaces and line feeds shows something other than spaces. -/
theorem exists_ink_shown (line : Line)
    (hink : ∃ cell ∈ line.cells, cell.1 ≠ ' ' ∧ cell.1 ≠ '\n') :
  ∃ cell ∈ line.shown, isSpace cell = false
  := by
  obtain ⟨cell, hcell, hspace, hfeed⟩ := hink
  exact ⟨cell, List.mem_filter.mpr ⟨hcell, bne_iff_ne.mpr hfeed⟩, decide_eq_false hspace⟩

/-- A row has nothing but spaces exactly if spaces are stranded in it. -/
theorem forall_cells_iff_stranded (line : Line) (width : UInt16)
    (hink : ∃ cell ∈ line.cells, cell.1 ≠ ' ' ∧ cell.1 ≠ '\n') {before after : List Line}
    {row : Line} (hrows : line.wrap width.toNat = before ++ row :: after) :
  (∀ cell ∈ row.cells, cell.1 = ' ')
    ↔ (before = [] ∧ StrandsIndent (max width.toNat 1) line.shown)
      ∨ (after = [] ∧ StrandsTail (max width.toNat 1) line.shown)
  := by
  have hcap : width.toNat ≤ columnCap := Nat.le_of_lt_succ width.toNat_lt
  obtain ⟨hcolumns, hcap'⟩ := columns_bounds hcap
  have hink' := line.exists_ink_shown hink
  obtain ⟨pieces, hbroken, hpieces⟩ := line.exists_broken_wrap hcap
  rw [hrows, List.map_append, List.map_cons] at hpieces
  obtain ⟨done, others, rfl, hdone, hothers⟩ := List.map_eq_append_iff.mp hpieces.symm
  obtain ⟨p, more, rfl, hp, hmore⟩ := List.map_eq_cons_iff.mp hothers
  have hmem : row ∈ line.wrap width.toNat := by
    rw [hrows]
    exact List.mem_append_right _ List.mem_cons_self
  have hbefore : done = [] ↔ before = [] := by
    rw [← List.map_eq_nil_iff (f := Piece.row), hdone, List.map_eq_nil_iff]
  have hafter : more = [] ↔ after = [] := by
    rw [← List.map_eq_nil_iff (f := Piece.row), hmore, List.map_eq_nil_iff]
  rw [line.forall_cells_iff_of_mem_wrap hcap hink' hmem, ← hp,
    hbroken.row_isSpace_iff hcolumns hcap' hink', hbefore, hafter]

/-- In every width, a row of a line with more than spaces and line feeds has nothing but spaces
exactly if it is the first one and the spaces at the front of the line are stranded, or the last one
and those at its back are.  So all rows have more than that exactly if neither are. -/
theorem blank_row_iff_stranded (line : Line) (width : UInt16)
    (hink : ∃ cell ∈ line.cells, cell.1 ≠ ' ' ∧ cell.1 ≠ '\n') :
  let columns := max width.toNat 1
  let rows := line.wrap width.toNat
  (∀ before row after, rows = before ++ row :: after →
      ((∀ cell ∈ row.cells, cell.1 = ' ')
        ↔ (before = [] ∧ StrandsIndent columns line.shown)
          ∨ (after = [] ∧ StrandsTail columns line.shown)))
    ∧ ((∀ row ∈ rows, ∃ cell ∈ row.cells, cell.1 ≠ ' ')
      ↔ ¬StrandsIndent columns line.shown ∧ ¬StrandsTail columns line.shown)
  := by
  intro columns rows
  have hrow : ∀ before row after, rows = before ++ row :: after →
      ((∀ cell ∈ row.cells, cell.1 = ' ')
        ↔ (before = [] ∧ StrandsIndent columns line.shown)
          ∨ (after = [] ∧ StrandsTail columns line.shown)) :=
    fun _ _ _ hrows => line.forall_cells_iff_stranded width hink hrows
  use hrow
  constructor
  · intro hall
    have hsome : rows ≠ [] := wrap_ne_nil line width.toNat
    constructor
    · intro hindent
      obtain ⟨row, after, hrows⟩ := List.exists_cons_of_ne_nil hsome
      obtain ⟨cell, hcell, hnot⟩ := hall row (by rw [hrows]; exact List.mem_cons_self)
      exact hnot ((hrow [] row after hrows).mpr (.inl ⟨rfl, hindent⟩) cell hcell)
    · intro htail
      obtain ⟨before, row, hrows⟩ := (List.eq_nil_or_concat' rows).resolve_left hsome
      obtain ⟨cell, hcell, hnot⟩ := hall row (by rw [hrows]; exact List.mem_concat_self)
      exact hnot ((hrow before row [] hrows).mpr (.inr ⟨rfl, htail⟩) cell hcell)
  · rintro ⟨hindent, htail⟩ row hmem
    by_contra! hspaces
    obtain ⟨before, after, hrows⟩ := List.append_of_mem hmem
    rcases (hrow before row after hrows).mp hspaces with h | h
    · exact hindent h.2
    · exact htail h.2

/-- Both the indent and the spaces at the back of this line are stranded in a row of five, and
neither are in a row of eight. -/
theorem blank_rows_of_indented_words :
  let line := ofText "  word abc   "
  (∃ cell ∈ line.cells, cell.1 ≠ ' ' ∧ cell.1 ≠ '\n')
    ∧ (line.wrap 5).map text = ["", "word", "abc", ""]
    ∧ (∀ row after, line.wrap 5 = row :: after → ∀ cell ∈ row.cells, cell.1 = ' ')
    ∧ (∀ before row, line.wrap 5 = before ++ [row] → ∀ cell ∈ row.cells, cell.1 = ' ')
    ∧ ∀ row ∈ line.wrap 8, ∃ cell ∈ row.cells, cell.1 ≠ ' '
  := by
  intro line
  have hink : ∃ cell ∈ line.cells, cell.1 ≠ ' ' ∧ cell.1 ≠ '\n' := by decide +kernel
  obtain ⟨hfive, -⟩ := blank_row_iff_stranded line 5 hink
  obtain ⟨-, height⟩ := blank_row_iff_stranded line 8 hink
  refine ⟨hink, by decide +kernel, ?_, ?_, height.mpr (by decide +kernel)⟩
  · intro row after hrows
    exact (hfive [] row after hrows).mpr (.inl ⟨rfl, by decide +kernel⟩)
  · intro before row hrows
    exact (hfive before row [] hrows).mpr (.inr ⟨rfl, by decide +kernel⟩)

/-- Not all rows of a line with a character other than spaces and line feeds have one: the space
behind a full row is followed by a row without cells, and an indent is left in front of a word. -/
theorem exists_blank_row :
  (¬∀ (line : Line) (width : UInt16), (∃ cell ∈ line.cells, cell.1 ≠ ' ' ∧ cell.1 ≠ '\n') →
      ∀ row ∈ line.wrap width.toNat, ∃ cell ∈ row.cells, cell.1 ≠ ' ')
    ∧ ((ofText "ab ").wrap 2).map text = ["ab", ""]
    ∧ ((ofText "  word").wrap 5).map text = ["", "word"]
  := by
  refine ⟨?_, by decide +kernel, by decide +kernel⟩
  intro h
  have hfull := h (ofText "ab ") 2 (by decide +kernel)
  revert hfull
  decide +kernel

end Line

end TaskConsole
