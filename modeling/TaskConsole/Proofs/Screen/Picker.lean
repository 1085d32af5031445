import Mathlib.Data.List.Nodup
import TaskConsole.Proofs.Picker.Run
import TaskConsole.Proofs.Screen.Row
import TaskConsole.Screen.PickerFrame

/-!
# The picker on the screen

The box of the picker stands in the middle of the screen, and the rows within its border show its
lines from the first one on (`Picker.showsInRow_frameLines`).  Below the title these are the tasks
of a window on the list, one in each row (`Picker.showsInRow_task`).  The window is where the cursor
is in it (`Picker.selected_in_window`), and on a screen of six rows or more the box has room for all
of it (`Picker.window_fits`).  A row that shows the line of a task reads as the title of the task, or
its id, behind the mark (`Picker.map_text_taskLine`).  So whatever keys and sizes of the screen led
there, the selected task is shown, and it is the only one that is marked
(`Picker.run_shows_selected`).
-/

namespace TaskConsole

open Grid

namespace Picker

/-- The cell of the box where no letter stands. -/
def boxGround (theme : Theme) : ScreenCell := { bg := theme.inputBg }

/-- What a task is called: its title, or its id where the title is blank. -/
def heading (t : Summary) : String := if Text.isBlankText t.title then t.id else t.title

/-- What is told of a task besides: when it was updated, its phase and where it works. -/
def details (home : Option String) (t : Summary) : String :=
  "(" ++ (t.updatedAt.elim "unknown date" Timestamp.minute) ++ " | " ++ t.phase.label ++ " | "
    ++ Text.abbreviate home t.workspace ++ ")"

/-- The texts of the line of a task. -/
theorem map_text_taskLine (theme : Theme) (home : Option String) (selected : Bool) (t : Summary) :
  (taskLine theme home selected t).spans.map Span.text
    = [if selected then ">" else " ", " ", heading t, " ", details home t]
  := by
  rw [taskLine, details]
  cases t.updatedAt with
  | none => rfl
  | some moment => rfl

section Frame

variable (p : Picker Summary) (theme : Theme) (home : Option String) (width height : Nat)

/-- The area within the border of the box. -/
def inner : Area := (p.overlay width height).padded (.uniform 1)

/-- Whether a row of the screen shows a line from edge to edge within the border of the box. -/
def ShowsInRow (y : Nat) (l : Line) : Prop :=
  ∀ x < (p.inner width height).width,
    ((p.frame theme home width height).grid.row y)[(p.inner width height).x + x]?
      = (l.rowCells (boxGround theme) (p.inner width height).width)[x]?

/-- The box is in the middle of the screen. -/
theorem overlay_eq :
  p.overlay width height =
    { x := (width - min width 90) / 2
      y := (height - min (p.shownCount height + 4) height) / 2
      width := min width 90
      height := min (p.shownCount height + 4) height }
  := by
  simp only [overlay, Area.centred, Area.screen, Nat.zero_add]

/-- The rows within the border of the box show its lines one after another, and nothing below
them. -/
theorem showsInRow_frameLines {row : Nat} (hrow : row < (p.inner width height).height) :
  p.ShowsInRow theme home width height ((p.inner width height).y + row)
    ((p.frameLines theme home height)[row]?.getD .empty)
  := by
  intro x hx
  let box := p.overlay width height
  let screen := blank width height
  let painted := screen.paint (.screen width height) (.ofBg theme.feedBg)
  let cleared := painted.clear box
  let drawn := cleared.paragraph box {} (.ofBg theme.inputBg) (.uniform 1) .left
    (p.frameLines theme home height)
  have hpainted : Changes screen painted _ := changes_modifyArea ..
  have hcleared : Changes painted cleared _ := changes_modifyArea ..
  have hdrawn : Changes cleared drawn _ := changes_paragraph ..
  have hbox : box.Contains ((p.inner width height).x + x) ((p.inner width height).y + row) := by
    simp only [inner, Area.padded, Padding.uniform, Area.Contains, box] at hx hrow ⊢
    omega
  have hplace : (p.inner width height).x + x < width ∧ (p.inner width height).y + row < height := by
    simp only [box, overlay_eq, Area.Contains] at hbox
    omega
  have harea : drawn.area = .screen width height := by
    rw [hdrawn.area, hcleared.area, hpainted.area]
    rfl
  have hcell : cleared.at? ((p.inner width height).x + x) ((p.inner width height).y + row)
      = some {} := by
    rw [hcleared.cell, hpainted.cell, at?_blank hplace.1 hplace.2, if_pos hbox]
    rfl
  have hframe : (p.frame theme home width height).grid = drawn := rfl
  rw [hframe, getElem?_row harea hplace.2, hdrawn.cell, hcell, Option.map_some]
  apply paragraphChange_inner box {} (.ofBg theme.inputBg) (.uniform 1)
    (p.frameLines theme home height) {} x row hx hrow

/-- A row that shows a line reads as its texts. -/
theorem ShowsInRow.rowReads {y : Nat} {l : Line} (h : p.ShowsInRow theme home width height y l) :
  RowReads ((p.frame theme home width height).grid.row y) (p.inner width height).x
    (p.inner width height).width (l.spans.map Span.text)
  := (l.rowReads_rowCells rfl _).of_cells h

/-- The cells within the border of a row that shows a line. -/
theorem ShowsInRow.cells_eq {y : Nat} {l : Line} (h : p.ShowsInRow theme home width height y l) :
  (((p.frame theme home width height).grid.row y).drop (p.inner width height).x).take
      (p.inner width height).width
    = l.rowCells (boxGround theme) (p.inner width height).width
  := by
  apply List.ext_getElem?
  intro x
  rw [List.getElem?_take, List.getElem?_drop]
  split
  · next hx => exact h x hx
  · rw [List.getElem?_eq_none]
    rw [Line.length_rowCells]
    omega

/-- A row that shows the line of a task begins with the mark of the selected task, or is left free
there. -/
theorem ShowsInRow.mark {y : Nat} {selected : Bool} {t : Summary}
    (h : p.ShowsInRow theme home width height y (taskLine theme home selected t))
    (hsome : 0 < (p.inner width height).width) :
  (((p.frame theme home width height).grid.row y)[(p.inner width height).x]?).map
      ScreenCell.symbol
    = some (if selected then ['>'] else [' '])
  := by
  have hmark : ∀ mark : Bool, Text.clustersOf [if mark then ">" else " "]
        = [if mark then ['>'] else [' ']]
      ∧ Text.columnsOf (if mark then ['>'] else [' ']) = 1 := by
    decide
  obtain ⟨hclusters, hcolumn⟩ := hmark selected
  have hreads := h.rowReads p theme home width height
  rw [map_text_taskLine] at hreads
  have hparts := Text.clustersOf_append [if selected then ">" else " "]
    [" ", heading t, " ", details home t]
  rw [hclusters] at hparts
  apply hreads.cluster [] _ _ hparts
  · rw [hcolumn]
    exact Nat.one_pos
  · rw [hcolumn]
    exact hsome

end Frame

/-! ### The window on the list -/

section Window

variable {p : Picker Summary} (hwithin : p.selected < p.items.length)
include hwithin

/-- A screen shows as many tasks as there are, or as it has rows for. -/
theorem shownCount_eq (height : Nat) :
  p.shownCount height = min p.items.length (max (height - 8) 3)
  := by
  rw [shownCount, pickerRows]
  omega

/-- The cursor is in the window, and the window is on the list. -/
theorem selected_in_window (height : Nat) :
  let start := p.windowStart (p.shownCount height)
  start ≤ p.selected ∧ p.selected < start + p.shownCount height
    ∧ start + p.shownCount height ≤ p.items.length
  := by
  simp only [windowStart, shownCount_eq hwithin]
  omega

/-- The tasks of the window are shown with their indices, which go up by one. -/
theorem map_snd_shown (height : Nat) :
  (p.shown height).map Prod.snd
    = List.range' (p.windowStart (p.shownCount height)) (p.shownCount height)
  := by
  obtain ⟨-, -, hend⟩ := selected_in_window hwithin height
  rw [shown, List.map_take, List.map_drop, List.zipIdx_map_snd, List.drop_range',
    List.take_range'_of_length_ge (by omega)]
  congr 1
  omega

/-- The box has one line for the title and one for each task of the window. -/
theorem length_frameLines (theme : Theme) (home : Option String) (height : Nat) :
  (p.frameLines theme home height).length = p.shownCount height + 1
  := by
  have hshown : (p.shown height).length = p.shownCount height := by
    rw [← List.length_map, map_snd_shown hwithin, List.length_range']
  rw [frameLines, List.length_cons, List.length_map, hshown]

/-- The box has room for the title and for all tasks of the window. -/
theorem window_fits (width : Nat) {height : Nat} (h : 6 ≤ height) :
  p.shownCount height + 1 ≤ (p.inner width height).height
  := by
  simp only [inner, overlay_eq, Area.padded, Padding.uniform, shownCount_eq hwithin]
  omega

/-- Below the title, a line is that of a task of the window. -/
theorem getElem?_frameLines (theme : Theme) (home : Option String) {height i : Nat}
    (hi : i < p.shownCount height) :
  ∃ h : p.windowStart (p.shownCount height) + i < p.items.length,
    (p.frameLines theme home height)[i + 1]?
      = some (taskLine theme home (p.windowStart (p.shownCount height) + i = p.selected)
        p.items[p.windowStart (p.shownCount height) + i])
  := by
  obtain ⟨-, -, hend⟩ := selected_in_window hwithin height
  have hindex : p.windowStart (p.shownCount height) + i < p.items.length := by omega
  use hindex
  rw [frameLines, List.getElem?_cons_succ, List.getElem?_map, shown,
    List.getElem?_take_of_lt hi, List.getElem?_drop, List.getElem?_zipIdx, Nat.zero_add,
    List.getElem?_eq_getElem hindex]
  rfl

/-- The selected task is shown once. -/
theorem count_selected_shown (height : Nat) :
  ((p.shown height).map Prod.snd).count p.selected = 1
  := by
  obtain ⟨hstart, hend, -⟩ := selected_in_window hwithin height
  rw [map_snd_shown hwithin]
  apply List.count_eq_one_of_mem List.nodup_range'
  rw [List.mem_range'_1]
  exact ⟨hstart, hend⟩

/-- Below the title, a row shows a task of the window. -/
theorem showsInRow_task (theme : Theme) (home : Option String) (width : Nat) {height : Nat}
    (h : 6 ≤ height) (i : Nat) (hi : i < p.shownCount height) :
  ∃ hindex : p.windowStart (p.shownCount height) + i < p.items.length,
    p.ShowsInRow theme home width height ((p.inner width height).y + (i + 1))
      (taskLine theme home (p.windowStart (p.shownCount height) + i = p.selected)
        p.items[p.windowStart (p.shownCount height) + i])
  := by
  have hfits := window_fits hwithin width h
  obtain ⟨hindex, hline⟩ := getElem?_frameLines hwithin theme home hi
  have hrow : i + 1 < (p.inner width height).height := by omega
  have hshows := showsInRow_frameLines p theme home width height hrow
  rw [hline, Option.getD_some] at hshows
  exact ⟨hindex, hshows⟩

/-- Below the tasks of the window, a row shows nothing. -/
theorem showsInRow_below (theme : Theme) (home : Option String) (width height row : Nat)
    (hrow : row < (p.inner width height).height) (hbelow : p.shownCount height < row) :
  p.ShowsInRow theme home width height ((p.inner width height).y + row) .empty
  := by
  have hlength := length_frameLines hwithin theme home height
  have hnone : (p.frameLines theme home height)[row]? = none :=
    List.getElem?_eq_none (by omega)
  have hshows := showsInRow_frameLines p theme home width height hrow
  rw [hnone, Option.getD_none] at hshows
  exact hshows

end Window

/-- A picker of some tasks, whatever keys and sizes of the screen it was given, on a screen of six
rows or more.  It shows a window on the list, of as many tasks as there are or as the screen has
rows for, and the selected task is in it, once.  The rows within the border of the box show the
title, below it one task of the window each, and nothing else; all of them are rows of the box, and
the box is on the screen.  A task's row reads as what the task is called and what is told of it
besides, and the mark stands in front of the selected task only. -/
theorem run_shows_selected {items : List Summary} (hsome : items ≠ []) (before : Nat)
    (events : List Event) (theme : Theme) (home : Option String) (width : Nat) {height : Nat}
    (hheight : 6 ≤ height) :
  let p := (ofItems items (pickerRows before)).run events
  let count := min items.length (max (height - 8) 3)
  let start := p.windowStart count
  let box := p.overlay width height
  let inner := p.inner width height
  let row (y : Nat) := (p.frame theme home width height).grid.row y
  (p.shown height = (items.zipIdx.drop start).take count
      ∧ start ≤ p.selected ∧ p.selected < start + count ∧ start + count ≤ items.length
      ∧ ((p.shown height).map Prod.snd).count p.selected = 1)
    ∧ (box.height = min (count + 4) height ∧ box.y + box.height ≤ height
      ∧ inner.y = box.y + 1 ∧ inner.height = box.height - 2 ∧ count + 1 ≤ inner.height)
    ∧ (p.ShowsInRow theme home width height inner.y (titleLine theme)
      ∧ RowReads (row inner.y) inner.x inner.width
        ["Open Task", " ", "(Up/Down select, Enter open, Esc cancel)"])
    ∧ (∀ i < count, ∃ h : start + i < items.length,
      p.ShowsInRow theme home width height (inner.y + (i + 1))
        (taskLine theme home (start + i = p.selected) items[start + i])
      ∧ RowReads (row (inner.y + (i + 1))) inner.x inner.width
        [if start + i = p.selected then ">" else " ", " ", heading items[start + i], " ",
          details home items[start + i]]
      ∧ (0 < inner.width → (row (inner.y + (i + 1)))[inner.x]?.map ScreenCell.symbol
        = some (if start + i = p.selected then ['>'] else [' '])))
    ∧ ∀ i < inner.height, count < i → p.ShowsInRow theme home width height (inner.y + i) .empty
  := by
  intro p count start box inner row
  obtain ⟨hitems, hselected⟩ := selected_run_ofItems items before events
  have hwithin : p.selected < p.items.length := by
    have hlast := cursorAfter_le items.length before
      (events.takeWhile fun e => !decides items.length e)
    have hpos := List.length_pos_iff.mpr hsome
    rw [hitems, hselected]
    omega
  have hcount : p.shownCount height = count := by
    rw [shownCount_eq hwithin, hitems]
  have hwindow := selected_in_window hwithin height
  have hfits := window_fits hwithin width hheight
  have htasks := showsInRow_task hwithin theme home width hheight
  have hbelow := showsInRow_below hwithin theme home width height
  simp only [hcount] at hwindow hfits htasks hbelow
  rw [hitems] at hwindow
  have htitle : 0 < inner.height := Nat.lt_of_lt_of_le (Nat.succ_pos count) hfits
  have htop := showsInRow_frameLines p theme home width height htitle
  rw [Nat.add_zero, frameLines, List.getElem?_cons_zero, Option.getD_some] at htop
  obtain ⟨hstart, hend, hlist⟩ := hwindow
  refine ⟨⟨?_, hstart, hend, hlist, count_selected_shown hwithin height⟩,
    ⟨?_, ?_, rfl, rfl, hfits⟩, ⟨htop, htop.rowReads p theme home width height⟩, ?_, hbelow⟩
  · rw [shown, hcount, hitems]
  · simp only [box, overlay_eq, hcount]
  · simp only [box, overlay_eq]
    omega
  · intro i hi
    obtain ⟨hindex, hshows⟩ := htasks i hi
    rw [List.getElem_of_eq hitems] at hshows
    have hindex' : start + i < items.length := by omega
    have hreads := hshows.rowReads p theme home width height
    rw [map_text_taskLine] at hreads
    refine ⟨hindex', hshows, by simpa using hreads, ?_⟩
    intro hcolumn
    simpa using hshows.mark p theme home width height hcolumn

/-- The fourth of five tasks is selected on a screen of six rows: its line is the last one that the
box has room for, and begins with the mark, as the lines of the two tasks before it do not.  A task
without a title is called by its id. -/
theorem run_shows_selected_of_six_rows :
  let second : Summary := { id := "b", title := "Beta", updatedAt := some ⟨0, 0⟩ }
  let third : Summary := { id := "c" }
  let fourth : Summary :=
    { id := "d", title := "Delta", workspace := "/home/me/d", phase := .running }
  let items := [{ id := "a" }, second, third, fourth, { id := "e" }]
  let events : List Event := [.key .toEnd, .resize 60 6, .key .moveUp]
  let home := some "/home/me"
  let p := (ofItems items (pickerRows 24)).run events
  let row (y : Nat) := (p.frame {} home 60 6).grid.row y
  let text (y : Nat) := (((row y).drop 1).take 58).flatMap ScreenCell.symbol
  items ≠ [] ∧ 6 ≤ 6 ∧ p.selected = 3
    ∧ (p.shown 6).map Prod.snd = [1, 2, 3]
    ∧ p.inner 60 6 = ⟨1, 1, 58, 4⟩
    ∧ p.ShowsInRow {} home 60 6 4 (taskLine {} home true fourth)
    ∧ RowReads (row 4) 1 58 [">", " ", "Delta", " ", "(unknown date | running | ~/d)"]
    ∧ (row 2)[1]?.map ScreenCell.symbol = some [' ']
    ∧ (row 3)[1]?.map ScreenCell.symbol = some [' ']
    ∧ (row 4)[1]?.map ScreenCell.symbol = some ['>']
    ∧ text 2 = "  Beta (1970-01-01 00:00 | awaiting | )".toList.rightpad 58 ' '
    ∧ text 3 = "  c (unknown date | awaiting | )".toList.rightpad 58 ' '
    ∧ text 4 = "> Delta (unknown date | running | ~/d)".toList.rightpad 58 ' '
  := by
  intro second third fourth items events home p row text
  have hsome : items ≠ [] := by decide
  have hselected : p.selected = 3 := by decide
  have hindices : (p.shown 6).map Prod.snd = [1, 2, 3] := by decide
  have hinner : p.inner 60 6 = ⟨1, 1, 58, 4⟩ := by decide
  have hcount : min items.length (max (6 - 8) 3) = 3 := by decide
  have hstart : p.windowStart 3 = 1 := by decide
  have hheight : 6 ≤ 6 := by decide
  obtain ⟨-, -, -, htasks, -⟩ := run_shows_selected hsome 24 events {} home 60 hheight
  have hp : (ofItems items (pickerRows 24)).run events = p := rfl
  simp only [hp, hcount, hstart, hselected, hinner] at htasks
  obtain ⟨_, hline2, -, hmark2⟩ := htasks 0 (by decide)
  obtain ⟨_, hline3, -, hmark3⟩ := htasks 1 (by decide)
  obtain ⟨_, hline4, hreads, hmark4⟩ := htasks 2 (by decide)
  have hheading : heading fourth = "Delta" := by decide
  have hdetails : details home fourth = "(unknown date | running | ~/d)" := by decide
  have hreads4 : RowReads (row 4) 1 58 [">", " ", heading fourth, " ", details home fourth] :=
    hreads
  rw [hheading, hdetails] at hreads4
  have htext : ∀ {y : Nat} {l : Line}, p.ShowsInRow {} home 60 6 y l →
      text y = (l.rowCells (boxGround {}) 58).flatMap ScreenCell.symbol := by
    intro y l hshows
    have hcells := hshows.cells_eq
    simp only [hinner] at hcells
    simp only [text, row, hcells]
  have htext2 : text 2
      = ((taskLine {} home false second).rowCells (boxGround {}) 58).flatMap ScreenCell.symbol :=
    htext hline2
  have htext3 : text 3
      = ((taskLine {} home false third).rowCells (boxGround {}) 58).flatMap ScreenCell.symbol :=
    htext hline3
  have htext4 : text 4
      = ((taskLine {} home true fourth).rowCells (boxGround {}) 58).flatMap ScreenCell.symbol :=
    htext hline4
  exact ⟨hsome, hheight, hselected, hindices, hinner, hline4, hreads4, hmark2 (by decide),
    hmark3 (by decide), hmark4 (by decide), htext2.trans (by decide +kernel),
    htext3.trans (by decide +kernel), htext4.trans (by decide +kernel)⟩

end Picker

end TaskConsole
