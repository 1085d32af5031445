import TaskConsole.Proofs.Screen.Grid
import TaskConsole.Proofs.Session.Paging
import TaskConsole.Screen.SessionFrame

/-!
# The feed on the screen

The header, the input and the footer take seven rows of a screen, and the feed has the others
(`bands_eq`); nothing else is drawn in these but the help (`Session.getElem?_row_frameWith`).  So
the rows of the feed show the lines of the window from the top on, as many as there are rows
(`Session.showsInRow_of_lt`).  The window is laid out for three rows at least, and on a screen of
eight or nine rows the feed has fewer.  A window at the end of the feed therefore shows the last
line on the screen exactly if the screen has ten rows or all lines have room
(`Session.newest_shown_iff`).
-/

namespace TaskConsole

/-- A screen with room for more than the header, the input and the footer has all their rows, and
the feed has the others. -/
theorem bands_eq {height : Nat} (width : Nat) (h : 7 ≤ height) :
  bands width height =
    { header := ⟨0, 0, width, 3⟩
      feed := ⟨0, 3, width, height - 7⟩
      input := ⟨0, height - 4, width, 3⟩
      footer := ⟨0, height - 1, width, 1⟩ }
  := by
  have hheights : bandHeights height = (3, height - 7, 3, 1) := by
    simp only [bandHeights, footerHeight, headerHeight, inputHeight, Prod.mk.injEq]
    omega
  simp only [bands, hheights, Bands.mk.injEq, Area.mk.injEq, true_and, and_true]
  omega

namespace Session

open Grid

/-- The cell of the feed where no letter stands. -/
def feedGround (theme : Theme) : ScreenCell := { fg := theme.textFg, bg := theme.feedBg }

/-- The area of the help on a screen. -/
def helpArea (theme : Theme) (width height : Nat) : Area :=
  (Area.screen width height).centred 56 ((helpLines theme).length + inputPadding * 2)

/-- The help is drawn in its area only. -/
theorem exists_changes_drawHelp (theme : Theme) {g : Grid} {width height : Nat}
    (h : g.area = .screen width height) :
  ∃ f, Changes g (drawHelp theme g) f
    ∧ ∀ x y, ¬(helpArea theme width height).Contains x y → f x y = id
  := by
  have harea : g.area.centred 56 ((helpLines theme).length + inputPadding * 2)
      = helpArea theme width height := by
    rw [h]
    rfl
  refine ⟨_, (changes_modifyArea _ _ _).trans (changes_paragraph _ _ _ _ _ _ _), ?_⟩
  intro x y hfree
  rw [harea, paragraphChange_eq_id hfree, if_neg hfree, Function.comp_id]

section Frame

variable (s : Session) (view : Feed.View) (home : Option String) {width height : Nat}

/-- A window that hides no line below is drawn without a note. -/
theorem changes_drawFeed
    (h : view.maxScroll - view.top = 0) (a : Area) (g : Grid) :
  Changes g (s.drawFeed view a g) (paragraphChange a s.theme.plainText (.ofBg s.theme.feedBg)
    (.horizontal Viewport.feedPadding) .left view.lines)
  := by
  have hplain : s.drawFeed view a g = g.paragraph a s.theme.plainText (.ofBg s.theme.feedBg)
      (.horizontal Viewport.feedPadding) .left view.lines := by
    rw [drawFeed, h]
    rfl
  rw [hplain]
  apply changes_paragraph

/-- The cells of the feed are those that the window on the feed draws there, if it hides no line
below and the help leaves them free. -/
theorem getElem?_row_frameWith
    (hheight : 7 ≤ height) (hbelow : view.maxScroll - view.top = 0) {x y : Nat}
    (hfeed : (bands width height).feed.Contains x y)
    (hfree : s.mode = .help → ¬(helpArea s.theme width height).Contains x y) :
  ((s.frameWith view home width height).grid.row y)[x]?
    = some (paragraphChange (bands width height).feed s.theme.plainText
        (.ofBg s.theme.feedBg) (.horizontal Viewport.feedPadding) .left view.lines x y {})
  := by
  let b := bands width height
  let screen := blank width height
  let header := s.drawHeader home b.header screen
  let feed := s.drawFeed view b.feed header
  let input := s.drawInput b.input feed
  let footer := s.drawFooter b.footer input
  have hheader : Changes screen header _ := changes_paragraph ..
  have hdrawn : Changes header feed _ := changes_drawFeed s view hbelow _ _
  have hinput : Changes feed input _ := changes_paragraph ..
  have hfooter : Changes input footer _ := changes_paragraph ..
  -- the other bands have no cell of the feed
  obtain ⟨hplace, hothers⟩ : (x < width ∧ y < height) ∧ ¬b.header.Contains x y
      ∧ ¬b.input.Contains x y ∧ ¬b.footer.Contains x y := by
    simp only [b, bands_eq width hheight, Area.Contains] at hfeed ⊢
    omega
  have hcell := calc
    footer.at? x y = input.at? x y := hfooter.at?_eq (paragraphChange_eq_id hothers.2.2)
    _ = feed.at? x y := hinput.at?_eq (paragraphChange_eq_id hothers.2.1)
    _ = (header.at? x y).map _ := hdrawn.cell x y
    _ = (screen.at? x y).map _ := by rw [hheader.at?_eq (paragraphChange_eq_id hothers.1)]
    _ = some _ := by rw [at?_blank hplace.1 hplace.2, Option.map_some]
  have harea : footer.area = .screen width height := by
    rw [hfooter.area, hinput.area, hdrawn.area, hheader.area]
    rfl
  by_cases hmode : s.mode = .help
  · have hframe : (s.frameWith view home width height).grid = drawHelp s.theme footer :=
      if_pos hmode
    obtain ⟨f, hhelp, hkeeps⟩ := exists_changes_drawHelp s.theme harea
    rw [hframe, getElem?_row (hhelp.area.trans harea) hplace.2,
      hhelp.at?_eq (hkeeps x y (hfree hmode)), hcell]
  · have hframe : (s.frameWith view home width height).grid = footer := if_neg hmode
    rw [hframe, getElem?_row harea hplace.2, hcell]

/-- A row of the feed shows the line of the window that is as many lines below its top as the row
is below the first row of the feed. -/
theorem paragraphChange_feed
    (theme : Theme) (lines : List Line) {x row : Nat} (hheight : 7 ≤ height)
    (hx : x < width - Viewport.feedPadding * 2) (hrow : row < height - 7) :
  some (paragraphChange (bands width height).feed theme.plainText (.ofBg theme.feedBg)
      (.horizontal Viewport.feedPadding) .left lines (Viewport.feedPadding + x) (3 + row) {})
    = ((lines[row]?.getD .empty).rowCells (feedGround theme)
        (width - Viewport.feedPadding * 2))[x]?
  := by
  have hfeed : (bands width height).feed = ⟨0, 3, width, height - 7⟩ := by
    rw [bands_eq width hheight]
  have hinner : (⟨0, 3, width, height - 7⟩ : Area).padded (.horizontal Viewport.feedPadding)
      = ⟨Viewport.feedPadding, 3, width - Viewport.feedPadding * 2, height - 7⟩ := by
    simp [Area.padded, Padding.horizontal, Viewport.feedPadding]
  have hshows := paragraphChange_inner ⟨0, 3, width, height - 7⟩ theme.plainText
    (.ofBg theme.feedBg) (.horizontal Viewport.feedPadding) lines {} x row
  rw [hinner] at hshows
  rw [hfeed, hshows hx hrow]
  rfl

/-- Whether a row of a screen shows a line of the feed: the cells between the two edges are those
of the line, as far as the help leaves them free. -/
def ShowsInRow (width height y : Nat) (l : Line) : Prop :=
  ∀ x < width - Viewport.feedPadding * 2,
    (s.mode = .help → ¬(helpArea s.theme width height).Contains (Viewport.feedPadding + x) y) →
    ((s.frame home width height).1.grid.row y)[Viewport.feedPadding + x]?
      = (l.rowCells (feedGround s.theme) (width - Viewport.feedPadding * 2))[x]?

/-- On a screen that the feed is laid out for, the rows of the feed show the lines from the top of
a window at the end of the feed on. -/
theorem showsInRow_of_lt
    (hheight : 7 ≤ height) (hviewport : s.viewport = .ofScreen width height)
    (hscroll : s.scroll = 0) {row : Nat} (hrow : row < height - 7) :
  s.ShowsInRow home width height (3 + row)
    (s.layOut.1[s.layOut.1.length - max (height - 7) 3 + row]?.getD .empty)
  := by
  have hkept : s.layOut.2.mode = s.mode ∧ s.layOut.2.theme = s.theme := by
    rw [layOut_snd]
    exact ⟨rfl, rfl⟩
  have hview : s.feedView.1 = Feed.view s.layOut.1 (max (height - 7) 3) 0 := by
    rw [feedView_fst_eq, hviewport, hscroll]
    rfl
  have hbelow : s.feedView.1.maxScroll - s.feedView.1.top = 0 := by
    rw [hview]
    exact Nat.sub_self _
  have hline : s.feedView.1.lines[row]?
      = s.layOut.1[s.layOut.1.length - max (height - 7) 3 + row]? := by
    rw [hview, ← List.getElem?_drop]
    exact List.getElem?_take_of_lt (by omega)
  intro x hx hfree
  have hfeed : (bands width height).feed.Contains (Viewport.feedPadding + x) (3 + row) := by
    simp only [bands_eq width hheight, Area.Contains, Viewport.feedPadding] at hx ⊢
    omega
  have hframe : (s.frame home width height).1
      = s.layOut.2.frameWith s.feedView.1 home width height := rfl
  rw [hframe, getElem?_row_frameWith _ _ _ hheight hbelow hfeed (by rwa [hkept.1, hkept.2]),
    hkept.2, paragraphChange_feed _ _ hheight hx hrow, hline]

end Frame

section Start

variable (snapshot : Snapshot) (agent : Agent) (agents : List Agent) (theme : Theme)
  (viewport : Viewport) (home : Option String) {width height : Nat}

/-- In every reachable state that is laid out for the screen it is drawn on and whose window is at
the end of the feed, the rows of the feed show lines one after another, on a screen of eight rows
or more.  The first of them is as far from the end as the feed has rows, or three lines if it has
fewer rows.  So the last line is among them exactly if the screen has ten rows or the feed has room
for all lines, and then it stands in one of the rows. -/
theorem newest_shown_iff
    (moments : List Moment) (hheight : 8 ≤ height)
    (hviewport : ((start snapshot agent agents theme viewport).watch moments).viewport
      = .ofScreen width height)
    (hscroll : ((start snapshot agent agents theme viewport).watch moments).scroll = 0)
    (hlines : ((start snapshot agent agents theme viewport).watch moments).layOut.1 ≠ []) :
  let s := (start snapshot agent agents theme viewport).watch moments
  let lines := s.layOut.1
  let feed := (bands width height).feed
  let first := lines.length - max feed.height 3
  feed = ⟨0, 3, width, height - 7⟩
    ∧ (s.conversation.length < UInt64.size → lines = s.freshLayout)
    ∧ (∀ row < feed.height, s.ShowsInRow home width height (feed.y + row)
      (lines[first + row]?.getD .empty))
    ∧ ((∃ row < feed.height, first + row + 1 = lines.length)
      ↔ 10 ≤ height ∨ lines.length ≤ feed.height)
    ∧ (10 ≤ height ∨ lines.length ≤ feed.height →
      ∃ row < feed.height, s.ShowsInRow home width height (feed.y + row) (lines.getLast hlines))
  := by
  intro s lines feed first
  have hfeed : feed = ⟨0, 3, width, height - 7⟩ := by
    simp only [feed, bands_eq width (Nat.le_of_succ_le hheight)]
  have hrows : feed.height = height - 7 := congrArg Area.height hfeed
  have hy : feed.y = 3 := congrArg Area.y hfeed
  have hshows : ∀ row < feed.height, s.ShowsInRow home width height (feed.y + row)
      (lines[first + row]?.getD .empty) := by
    intro row hrow
    rw [hrows] at hrow
    have hline : first = lines.length - max (height - 7) 3 := by simp only [first, hrows]
    rw [hy, hline]
    exact showsInRow_of_lt s home (Nat.le_of_succ_le hheight) hviewport hscroll hrow
  have hlast : (∃ row < feed.height, first + row + 1 = lines.length)
      ↔ 10 ≤ height ∨ lines.length ≤ feed.height := by
    have hsome : 0 < lines.length := List.length_pos_iff.mpr hlines
    simp only [first, hrows]
    constructor
    · rintro ⟨row, hrow, hend⟩
      omega
    · intro hroom
      use lines.length - 1 - (lines.length - max (height - 7) 3)
      omega
  have htracks : s.Tracks := (tracks_start _ _ _ _ _).watch moments
  refine ⟨hfeed, htracks.layOut_fst, hshows, hlast, fun hroom => ?_⟩
  obtain ⟨row, hrow, hend⟩ := hlast.mpr hroom
  use row, hrow
  have hline : lines[first + row]?.getD .empty = lines.getLast hlines := by
    have hindex : first + row = lines.length - 1 := by omega
    rw [hindex, ← List.getLast?_eq_getElem?, List.getLast?_eq_some_getLast hlines, Option.getD_some]
  rw [← hline]
  exact hshows row hrow

end Start

/-- Six lines on a screen of ten rows, where the feed has three: the last line stands in one of
them. -/
theorem newest_shown_of_ten_rows :
  let snapshot : Snapshot :=
    { task := { id := "t" }, messages := [⟨"m", .user, none, [⟨0, .text "a\nb\nc\nd\ne\nf"⟩]⟩] }
  let s := (start snapshot ⟨"a", "A", "m"⟩ [] {} (.ofScreen 20 10)).watch [.look]
  s.viewport = .ofScreen 20 10 ∧ s.scroll = 0 ∧ s.layOut.1.length = 6
    ∧ ∃ hlines : s.layOut.1 ≠ [],
      ∃ row < 3, s.ShowsInRow none 20 10 (3 + row) (s.layOut.1.getLast hlines)
  := by
  intro snapshot s
  have hviewport : s.viewport = .ofScreen 20 10 := by decide
  have hscroll : s.scroll = 0 := by decide
  have hlength : s.layOut.1.length = 6 := by decide +kernel
  have hlines : s.layOut.1 ≠ [] := List.ne_nil_of_length_pos (by omega)
  obtain ⟨-, -, -, -, hshown⟩ := newest_shown_iff snapshot ⟨"a", "A", "m"⟩ [] {} (.ofScreen 20 10)
    none [.look] (by decide) hviewport hscroll hlines
  exact ⟨hviewport, hscroll, hlength, hlines, hshown (.inl (by decide))⟩

/-- Three lines on a screen of eight rows, where the feed has one: it shows the first line, and no
row of the feed shows the last one. -/
theorem newest_not_shown_on_eight_rows :
  let snapshot : Snapshot :=
    { task := { id := "t" }, messages := [⟨"m", .user, none, [⟨0, .text "a\nb\nc"⟩]⟩] }
  let s := start snapshot ⟨"a", "A", "m"⟩ [] {} (.ofScreen 8 8)
  let feed := (bands 8 8).feed
  s.viewport = .ofScreen 8 8 ∧ s.scroll = 0
    ∧ s.layOut.1.map Line.text = ["› a", "  b", "  c"]
    ∧ ((s.frame none 8 8).1.grid.row 3).flatMap ScreenCell.symbol = " › a    ".toList
    ∧ ∃ hlines : s.layOut.1 ≠ [],
      ¬∃ row < feed.height, s.ShowsInRow none 8 8 (feed.y + row) (s.layOut.1.getLast hlines)
  := by
  intro snapshot s feed
  have hviewport : s.viewport = .ofScreen 8 8 := by decide
  have hscroll : s.scroll = 0 := by decide
  have htexts : s.layOut.1.map Line.text = ["› a", "  b", "  c"] := by decide +kernel
  have hsymbols : ((s.frame none 8 8).1.grid.row 3).map ScreenCell.symbol
      = " › a    ".toList.map fun c => [c] := by
    decide +kernel
  have hrow : ((s.frame none 8 8).1.grid.row 3).flatMap ScreenCell.symbol
      = " › a    ".toList := by
    rw [List.flatMap_def, hsymbols]
    decide
  have hlines : s.layOut.1 ≠ [] := by
    intro hnone
    rw [hnone] at htexts
    cases htexts
  -- the cell behind the marker holds the letter of the first line, not that of the last one
  have hcell : ((s.frame none 8 8).1.grid.row 3)[3]?.map ScreenCell.symbol = some ['a'] := by
    rw [← List.getElem?_map, hsymbols]
    decide
  have hlast : s.layOut.1.getLast?.map (fun l =>
      (l.rowCells (feedGround s.theme) 6)[2]?.map ScreenCell.symbol) = some (some ['c']) := by
    decide +kernel
  rw [List.getLast?_eq_some_getLast hlines, Option.map_some, Option.some.injEq] at hlast
  refine ⟨hviewport, hscroll, htexts, hrow, hlines, ?_⟩
  rintro ⟨row, hfeed, hshows⟩
  have hfirst : row = 0 := Nat.lt_one_iff.mp hfeed
  subst hfirst
  have hsame := hshows 2 (by decide) (by decide)
  have hletters := congrArg (Option.map ScreenCell.symbol) hsame
  have hdiffer : some ['a'] = some ['c'] := hcell.symm.trans (hletters.trans hlast)
  exact absurd hdiffer (by decide)

end Session

end TaskConsole
