import TaskConsole.Proofs.Session.Watching

/-!
# Paging through the feed

A window shows lines of the feed in a row, and tells how many there are behind them
(`Feed.view_isSlice`).  A page key moves it over the same feed by half a page, which is no more
than it shows (`Session.page_handle`), so one window goes on where the one before it ended.
Repeated, the keys reach both ends (`Session.top_run_pageUp_eq_zero`,
`Session.top_run_pageDown_eq_maxScroll`), and from one end to the other they pass every line
(`Session.paging_passes_all`).
-/

namespace TaskConsole

/-! ### Windows -/

namespace Feed

/-- Whether a window shows the line of a layout at a place. -/
def View.Shows (view : View) (lines : List Line) (i : Nat) : Prop :=
  view.top ≤ i ∧ i < view.top + view.lines.length ∧ view.lines[i - view.top]? = lines[i]?

/-- Whether a window shows lines of a layout in a row, as many as there are or as it has rows for,
and counts the ones behind them. -/
structure View.IsSlice (view : View) (lines : List Line) (rows : Nat) : Prop where
  lines_eq : view.lines = (lines.drop view.top).take (min rows lines.length)
  length_eq : view.lines.length = min rows lines.length
  all : view.top + view.lines.length + (view.maxScroll - view.top) = lines.length

variable (lines : List Line) (height scroll : Nat)

theorem length_view :
  (view lines height scroll).lines.length = min height lines.length
  := by
  simp only [view, List.length_take, List.length_drop]
  omega

theorem view_isSlice :
  (view lines height scroll).IsSlice lines height
  := by
  constructor
  · simp only [view]
    rw [List.take_eq_take_iff, List.length_drop]
    omega
  · apply length_view
  · rw [length_view]
    simp only [view]
    omega

/-- A window shows the lines from its top on. -/
theorem View.IsSlice.shows
    {view : View} {lines : List Line} {rows : Nat} (h : view.IsSlice lines rows) {i : Nat}
    (htop : view.top ≤ i) (hend : i < view.top + view.lines.length) :
  view.Shows lines i
  := by
  use htop, hend
  rw [h.length_eq] at hend
  rw [h.lines_eq, List.getElem?_take_of_lt (by omega), List.getElem?_drop,
    Nat.add_sub_cancel' htop]

/-- A window that is moved up by lines has its top as many lines higher, as far as there are
lines above. -/
theorem top_view_up (n : Nat) :
  (view lines height (min (scroll + n) (lines.length - height))).top
    = (view lines height scroll).top - n
  := by
  simp only [view]
  omega

end Feed

namespace Session

/-! ### One press -/

/-- A look at the feed shows the window on the lines as they are laid out. -/
theorem feedView_fst_eq (s : Session) :
  s.feedView.1 = Feed.view s.layOut.1 s.viewport.feedHeight s.scroll
  := by
  have hview : s.feedView.1 =
      Feed.view s.layOut.1 s.layOut.2.viewport.feedHeight s.layOut.2.scroll := rfl
  rw [hview, layOut_snd]
  rfl

theorem feedView_isSlice (s : Session) :
  s.feedView.1.IsSlice s.layOut.1 s.viewport.feedHeight
  := by
  rw [feedView_fst_eq]
  apply Feed.view_isSlice

/-- The lines of the feed are the ones that are kept, if they are the ones of now. -/
theorem layOut_fst_eq (s : Session) :
  s.layOut.1 = s.keptLayout?.getD s.freshLayout
  := by
  rw [layOut]
  cases s.keptLayout? with
  | some lines => rfl
  | none => rfl

/-- The lines that a session keeps are laid out the same at the next look. -/
theorem layOut_layOut (s : Session) :
  s.layOut.2.layOut.1 = s.layOut.1
  := by
  rw [layOut_fst_eq, layOut_fst_eq s]
  cases hkept : s.keptLayout? with
  | some lines =>
    have hsame : s.layOut.2 = s := by rw [layOut, hkept]
    rw [hsame, hkept]
  | none =>
    have hlaid : s.layOut.2
        = s.laid (some ⟨s.viewport.feedWidth, s.generation, s.freshLayout⟩) := by
      rw [layOut, hkept]
      rfl
    have hkeeps : s.layOut.2.keptLayout? = some s.freshLayout := by
      rw [hlaid]
      simp [keptLayout?, laid]
    rw [hkeeps, Option.getD_some, Option.getD_none]

/-- Two sessions that show windows on the same feed while the prompt has the keys. -/
structure SameFeed (s s' : Session) : Prop where
  mode : s'.mode = .input
  lines : s'.layOut.1 = s.layOut.1
  viewport : s'.viewport = s.viewport

theorem SameFeed.feedView_isSlice {s s' : Session} (h : SameFeed s s') :
  s'.feedView.1.IsSlice s.layOut.1 s.viewport.feedHeight
  := by
  rw [← h.lines, ← h.viewport]
  apply Session.feedView_isSlice

theorem SameFeed.trans {s s' s'' : Session} (h : SameFeed s s') (h' : SameFeed s' s'') :
  SameFeed s s''
  := ⟨h'.mode, h'.lines.trans h.lines, h'.viewport.trans h.viewport⟩

section Press

variable {s : Session} (hmode : s.mode = .input) (now : Nat)

include hmode

/-- The key for a page up moves the window up by half a page. -/
theorem pageUp_handle :
  SameFeed s (s.handle now (.key .pageUp)).1
    ∧ (s.handle now (.key .pageUp)).1.feedView.1.top
      = s.feedView.1.top - s.viewport.halfPage
  := by
  let s' : Session := { s with armedAt := none }
  have hlines : s'.layOut.1 = s.layOut.1 := by
    rw [layOut_fst_eq, layOut_fst_eq]
    rfl
  have hup : (s.handle now (.key .pageUp)).1 = { s'.layOut.2 with
      scroll := min (s.scroll + s.viewport.halfPage)
        (s.layOut.1.length - s.viewport.feedHeight) } := by
    have hscroll : s'.scrollUp s.viewport.halfPage = { s'.layOut.2 with
        scroll := min (s'.layOut.2.scroll + s.viewport.halfPage) s'.feedView.1.maxScroll } := rfl
    rw [handle, handleKey_input hmode now (by decide)]
    show s'.scrollUp s.viewport.halfPage = _
    rw [hscroll, feedView_fst_eq, hlines, layOut_snd]
    rfl
  have hsame : SameFeed s (s.handle now (.key .pageUp)).1 := by
    rw [hup]
    constructor
    · rw [layOut_snd]
      exact hmode
    · rw [← hlines, ← layOut_layOut s', layOut_fst_eq, layOut_fst_eq s'.layOut.2]
      rfl
    · rw [layOut_snd]
      rfl
  use hsame
  rw [feedView_fst_eq, hsame.lines, hsame.viewport, hup, feedView_fst_eq, Feed.top_view_up]

/-- The key for a page down takes half a page off the offset of the window. -/
theorem pageDown_handle :
  SameFeed s (s.handle now (.key .pageDown)).1
    ∧ (s.handle now (.key .pageDown)).1.scroll = s.scroll - s.viewport.halfPage
  := by
  have hdown : (s.handle now (.key .pageDown)).1
      = { s with armedAt := none, scroll := s.scroll - s.viewport.halfPage } := by
    rw [handle, handleKey_input hmode now (by decide)]
    rfl
  rw [hdown]
  constructor
  · use hmode
    · rw [layOut_fst_eq, layOut_fst_eq]
      rfl
  · rfl

theorem feedView_pageDown :
  (s.handle now (.key .pageDown)).1.feedView.1
    = Feed.view s.layOut.1 s.viewport.feedHeight (s.scroll - s.viewport.halfPage)
  := by
  obtain ⟨hsame, hscroll⟩ := pageDown_handle hmode now
  rw [feedView_fst_eq, hsame.lines, hsame.viewport, hscroll]

/-- The key for a page down never moves the window up. -/
theorem top_le_top_pageDown :
  s.feedView.1.top ≤ (s.handle now (.key .pageDown)).1.feedView.1.top
  := by
  rw [feedView_pageDown hmode, feedView_fst_eq]
  simp only [Feed.view]
  omega

/-- A page key moves the window over the same feed by no more than it shows. -/
theorem page_handle
    (hrows : 0 < s.viewport.feedHeight) {action : KeyAction}
    (h : action = .pageUp ∨ action = .pageDown) :
  let s' := (s.handle now (.key action)).1
  SameFeed s s'
    ∧ s.feedView.1.top ≤ s'.feedView.1.top + s.feedView.1.lines.length
    ∧ s'.feedView.1.top ≤ s.feedView.1.top + s.feedView.1.lines.length
  := by
  intro s'
  have hhalf : s.viewport.halfPage ≤ s.viewport.feedHeight := by
    rw [Viewport.halfPage]
    omega
  have hslice := s.feedView_isSlice
  rcases h with rfl | rfl
  · obtain ⟨hsame, htop⟩ := pageUp_handle hmode now
    use hsame
    rw [htop, hslice.length_eq, feedView_fst_eq]
    simp only [Feed.view]
    omega
  · use (pageDown_handle hmode now).1
    rw [hslice.length_eq, feedView_pageDown hmode, feedView_fst_eq]
    simp only [Feed.view]
    omega

/-- The windows after the key for a page up and after that for a page down: either shows lines of
the same feed, the one as far up and the other as far down as the window has rows, or less, and no
line is left out in between. -/
theorem page_windows (hrows : 0 < s.viewport.feedHeight) :
  let rows := s.viewport.feedHeight
  let view := s.feedView.1
  let upper := (s.handle now (.key .pageUp)).1.feedView.1
  let lower := (s.handle now (.key .pageDown)).1.feedView.1
  (upper.IsSlice s.layOut.1 rows ∧ upper.top ≤ view.top ∧ view.top ≤ upper.top + rows
      ∧ view.top ≤ upper.top + upper.lines.length)
    ∧ lower.IsSlice s.layOut.1 rows ∧ view.top ≤ lower.top ∧ lower.top ≤ view.top + rows
      ∧ lower.top ≤ view.top + view.lines.length
  := by
  intro rows view upper lower
  obtain ⟨hupsame, hupto, -⟩ := page_handle hmode now hrows (.inl rfl)
  obtain ⟨hdownsame, -, hdownto⟩ := page_handle hmode now hrows (.inr rfl)
  have hslice : view.IsSlice s.layOut.1 rows := s.feedView_isSlice
  have hupper : upper.IsSlice s.layOut.1 rows := hupsame.feedView_isSlice
  have hlower : lower.IsSlice s.layOut.1 rows := hdownsame.feedView_isSlice
  have htop : upper.top ≤ view.top := by
    have hmoved : upper.top = view.top - s.viewport.halfPage := (pageUp_handle hmode now).2
    rw [hmoved]
    apply Nat.sub_le
  have hshown : view.lines.length ≤ rows := by
    rw [hslice.length_eq]
    apply Nat.min_le_left
  have hsize : upper.lines.length = view.lines.length := by
    rw [hupper.length_eq, hslice.length_eq]
  have hupto' : view.top ≤ upper.top + upper.lines.length := hsize ▸ hupto
  have hdownto' : lower.top ≤ view.top + view.lines.length := hdownto
  exact ⟨⟨hupper, htop, by omega, hupto'⟩,
    hlower, top_le_top_pageDown hmode now, by omega, hdownto'⟩

end Press

/-! ### Repeated presses -/

/-- The presses of a key at some times. -/
def repeated (action : KeyAction) (times : List Nat) : List (Nat × Event) :=
  times.map fun now => (now, .key action)

section Repeated

variable {s : Session} (hmode : s.mode = .input) (times : List Nat)

include hmode

/-- Each press of the key for a page up takes half a page off the top of the window. -/
theorem top_run_pageUp :
  SameFeed s (s.run (repeated .pageUp times))
    ∧ (s.run (repeated .pageUp times)).feedView.1.top
      = s.feedView.1.top - times.length * s.viewport.halfPage
  := by
  induction times generalizing s with
  | nil =>
    rw [List.length_nil, Nat.zero_mul]
    exact ⟨⟨hmode, rfl, rfl⟩, rfl⟩
  | cons now times ih =>
    obtain ⟨hsame, htop⟩ := pageUp_handle hmode now
    obtain ⟨hrest, htops⟩ := ih hsame.mode
    have hrun : s.run (repeated .pageUp (now :: times))
        = (s.handle now (.key .pageUp)).1.run (repeated .pageUp times) := rfl
    rw [hrun]
    use hsame.trans hrest
    rw [htops, htop, hsame.viewport, List.length_cons, Nat.succ_mul, Nat.sub_sub, Nat.add_comm]

/-- Each press of the key for a page down takes half a page off the offset of the window. -/
theorem scroll_run_pageDown :
  SameFeed s (s.run (repeated .pageDown times))
    ∧ (s.run (repeated .pageDown times)).scroll
      = s.scroll - times.length * s.viewport.halfPage
  := by
  induction times generalizing s with
  | nil =>
    rw [List.length_nil, Nat.zero_mul]
    exact ⟨⟨hmode, rfl, rfl⟩, rfl⟩
  | cons now times ih =>
    obtain ⟨hsame, hscroll⟩ := pageDown_handle hmode now
    obtain ⟨hrest, hscrolls⟩ := ih hsame.mode
    have hrun : s.run (repeated .pageDown (now :: times))
        = (s.handle now (.key .pageDown)).1.run (repeated .pageDown times) := rfl
    rw [hrun]
    use hsame.trans hrest
    rw [hscrolls, hscroll, hsame.viewport, List.length_cons, Nat.succ_mul, Nat.sub_sub,
      Nat.add_comm]

/-- As many presses of the key for a page up as there are lines in front of the last window lead
to the front of the feed. -/
theorem top_run_pageUp_eq_zero (h : s.feedView.1.maxScroll ≤ times.length) :
  (s.run (repeated .pageUp times)).feedView.1.top = 0
  := by
  have hhalf : times.length * 1 ≤ times.length * s.viewport.halfPage :=
    Nat.mul_le_mul_left _ (Nat.le_max_right _ _)
  have htop : s.feedView.1.top ≤ s.feedView.1.maxScroll := Nat.sub_le _ _
  rw [(top_run_pageUp hmode times).2]
  omega

/-- As many presses of the key for a page down as the offset of the window counts lines lead to
the end of the feed. -/
theorem top_run_pageDown_eq_maxScroll (h : s.scroll ≤ times.length) :
  (s.run (repeated .pageDown times)).feedView.1.top = s.feedView.1.maxScroll
  := by
  have hhalf : times.length * 1 ≤ times.length * s.viewport.halfPage :=
    Nat.mul_le_mul_left _ (Nat.le_max_right _ _)
  obtain ⟨hsame, hscroll⟩ := scroll_run_pageDown hmode times
  have hzero : s.scroll - times.length * s.viewport.halfPage = 0 := by omega
  rw [feedView_fst_eq, hsame.lines, hsame.viewport, hscroll, hzero, feedView_fst_eq]
  simp only [Feed.view, Nat.zero_min, Nat.sub_zero]

/-- Between the windows before and after repeated presses of a page key, every line is shown on
the way. -/
theorem exists_shows_of_between
    (hrows : 0 < s.viewport.feedHeight) {action : KeyAction}
    (h : action = .pageUp ∨ action = .pageDown) {i : Nat}
    (hi : let last := (s.run (repeated action times)).feedView.1
      last.top ≤ i ∧ i < s.feedView.1.top + s.feedView.1.lines.length
        ∨ s.feedView.1.top ≤ i ∧ i < last.top + last.lines.length) :
  ∃ k ≤ times.length, (s.run (repeated action (times.take k))).feedView.1.Shows s.layOut.1 i
  := by
  induction times generalizing s with
  | nil =>
    use 0, Nat.le_refl _
    have hwindow := (or_self _).mp hi
    exact s.feedView_isSlice.shows hwindow.1 hwindow.2
  | cons now times ih =>
    by_cases hwindow : s.feedView.1.top ≤ i ∧ i < s.feedView.1.top + s.feedView.1.lines.length
    · use 0, Nat.zero_le _
      exact s.feedView_isSlice.shows hwindow.1 hwindow.2
    · -- the line is not in this window, so it is between the next one and the last
      obtain ⟨hsame, hup, hdown⟩ := page_handle hmode now hrows h
      have hlength : (s.handle now (.key action)).1.feedView.1.lines.length
          = s.feedView.1.lines.length := by
        rw [feedView_fst_eq, feedView_fst_eq, Feed.length_view, Feed.length_view, hsame.lines,
          hsame.viewport]
      have hrun : s.run (repeated action (now :: times))
          = (s.handle now (.key action)).1.run (repeated action times) := rfl
      obtain ⟨k, hk, hshows⟩ := ih hsame.mode (by rwa [hsame.viewport]) (by
        rw [hrun] at hi
        intro last
        rw [hlength]
        rcases hi with ⟨hlast, hend⟩ | ⟨htop, hend⟩
        · left
          exact ⟨hlast, by omega⟩
        · right
          exact ⟨by omega, hend⟩)
      use k + 1, Nat.succ_le_succ hk
      rw [← hsame.lines]
      exact hshows

/-- On the way from the end of the feed to its front every line is shown. -/
theorem exists_shows_pageUp
    (hrows : 0 < s.viewport.feedHeight) (hend : s.feedView.1.top = s.feedView.1.maxScroll)
    (htimes : s.feedView.1.maxScroll ≤ times.length) {i : Nat} (hi : i < s.layOut.1.length) :
  ∃ k ≤ times.length, (s.run (repeated .pageUp (times.take k))).feedView.1.Shows s.layOut.1 i
  := by
  have hall := s.feedView_isSlice.all
  apply exists_shows_of_between hmode times hrows (.inl rfl)
  intro last
  left
  have hlast : last.top = 0 := top_run_pageUp_eq_zero hmode times htimes
  have hbefore : i < s.feedView.1.top + s.feedView.1.lines.length := by omega
  rw [hlast]
  exact ⟨Nat.zero_le _, hbefore⟩

/-- On the way from the front of the feed to its end every line is shown. -/
theorem exists_shows_pageDown
    (hrows : 0 < s.viewport.feedHeight) (hfront : s.feedView.1.top = 0)
    (htimes : s.scroll ≤ times.length) {i : Nat} (hi : i < s.layOut.1.length) :
  ∃ k ≤ times.length, (s.run (repeated .pageDown (times.take k))).feedView.1.Shows s.layOut.1 i
  := by
  have hslice := s.feedView_isSlice
  have hall := hslice.all
  apply exists_shows_of_between hmode times hrows (.inr rfl)
  intro last
  right
  have hlast : last.top = s.feedView.1.maxScroll := top_run_pageDown_eq_maxScroll hmode times htimes
  have hlastslice : last.IsSlice s.layOut.1 s.viewport.feedHeight :=
    (scroll_run_pageDown hmode times).1.feedView_isSlice
  have hbehind : s.feedView.1.top ≤ i := by omega
  have hbefore : i < last.top + last.lines.length := by
    rw [hlastslice.length_eq, ← hslice.length_eq]
    omega
  exact ⟨hbehind, hbefore⟩

end Repeated

/-! ### The viewport -/

/-- No event but another size of the screen changes the viewport. -/
theorem viewport_handle
    (s : Session) (now : Nat) {e : Event} (h : ∀ width height, e ≠ .resize width height) :
  (s.handle now e).1.viewport = s.viewport
  := by
  have hnotify : ∀ (s' : Session) (n : Notice), (s'.notify n).viewport = s'.viewport := by
    intro s' n
    obtain ⟨_, _, hnotice⟩ := s'.exists_notify_eq n
    rw [hnotice]
  cases e with
  | key action =>
    obtain ⟨_, _, _, _, _, _, hkey⟩ := s.exists_handleKey_eq now action
    have henact : (s.enact action).viewport = s.viewport := by
      cases action with
      | submit =>
        rw [enact]
        split
        · rfl
        · rfl
      | nextAgent =>
        rw [enact, switchAgent]
        split
        · rfl
        · rfl
      | _ => rfl
    rw [handle, hkey]
    split
    · exact henact
    · rfl
  | outcome o =>
    rw [handle]
    apply handleOutcome_cases (P := fun s' => s'.viewport = s.viewport)
    · rfl
    · intro text notice
      apply hnotify
    · apply hnotify
    · intro snapshot
      obtain ⟨_, happly⟩ := s.exists_apply_eq snapshot
      obtain ⟨_, _, _, _, hentries⟩ := exists_foldl_met_eq snapshot.entries s
      rw [happly, hentries]
    · intro model models
      rfl
    · intro agents
      rfl
  | resize width height => exact (h width height rfl).elim
  | serverTask taskId => rfl
  | tick => rfl

/-- A session that is shown on a screen is laid out for the size of some screen at every
moment. -/
theorem exists_viewport_watch
    {s : Session} (h : ∃ width height, s.viewport = .ofScreen width height)
    (moments : List Moment) :
  ∃ width height, (s.watch moments).viewport = .ofScreen width height
  := by
  induction moments generalizing s with
  | nil => exact h
  | cons moment moments ih =>
    have hlive : ∃ width height, (s.live moment).1.viewport = .ofScreen width height := by
      cases moment with
      | look =>
        rw [live_look]
        exact h
      | event now e =>
        by_cases hsize : ∀ width height, e ≠ .resize width height
        · rw [live, viewport_handle s now hsize]
          exact h
        · push Not at hsize
          obtain ⟨width, height, rfl⟩ := hsize
          exact ⟨width, height, rfl⟩
    exact ih hlive

/-- At every moment a session keeps track of its conversation. -/
theorem Tracks.watch {s : Session} (h : s.Tracks) (moments : List Moment) :
  (s.watch moments).Tracks
  := by
  induction moments generalizing s with
  | nil => exact h
  | cons moment moments ih =>
    apply ih
    cases moment with
    | look => exact h.layOut
    | event now e => exact h.handle now e

section Start

variable (snapshot : Snapshot) (agent : Agent) (agents : List Agent) (theme : Theme)
  (width height : Nat)

theorem viewport_start (viewport : Viewport) :
  (start snapshot agent agents theme viewport).viewport = viewport
  := by
  let bare : Session :=
    { theme := theme, task := snapshot.task, agent := agent, agents := agents,
      viewport := viewport }
  obtain ⟨_, happly⟩ := bare.exists_apply_eq snapshot
  obtain ⟨_, _, _, _, hentries⟩ := exists_foldl_met_eq snapshot.entries bare
  have hviewport : (bare.apply snapshot).viewport = viewport := by rw [happly, hentries]
  exact hviewport

/-- In every reachable state in which the prompt has the keys, the window shows lines of the feed
in a row, as many as there are or as it has rows for, and counts those behind them.  Half a page
up or down it shows lines of the same feed, and has moved by no more rows than it has, and by no
more lines than it shows.  Repeated, the key for a page up leads to the front of the feed and
the one for a page down to its end; and on the way from one end to the other each line of the
feed is shown. -/
theorem paging_passes_all
    (moments : List Moment)
    (hmode : ((start snapshot agent agents theme (.ofScreen width height)).watch moments).mode
      = .input) :
  let s := (start snapshot agent agents theme (.ofScreen width height)).watch moments
  let lines := s.layOut.1
  let rows := s.viewport.feedHeight
  let view := s.feedView.1
  let after := fun (action : KeyAction) (times : List Nat) =>
    (s.run (repeated action times)).feedView.1
  (s.conversation.length < UInt64.size → lines = s.freshLayout)
    ∧ view.IsSlice lines rows
    ∧ (∀ now : Nat,
      let upper := after .pageUp [now]
      let lower := after .pageDown [now]
      (upper.IsSlice lines rows ∧ upper.top ≤ view.top ∧ view.top ≤ upper.top + rows
          ∧ view.top ≤ upper.top + upper.lines.length)
        ∧ lower.IsSlice lines rows ∧ view.top ≤ lower.top ∧ lower.top ≤ view.top + rows
          ∧ lower.top ≤ view.top + view.lines.length)
    ∧ (∀ times : List Nat, view.maxScroll ≤ times.length → (after .pageUp times).top = 0)
    ∧ (∀ times : List Nat, s.scroll ≤ times.length →
      (after .pageDown times).top = view.maxScroll)
    ∧ ∀ i < lines.length,
      (view.top = view.maxScroll → ∀ times : List Nat, view.maxScroll ≤ times.length →
        ∃ k ≤ times.length, (after .pageUp (times.take k)).Shows lines i)
      ∧ (view.top = 0 → ∀ times : List Nat, s.scroll ≤ times.length →
        ∃ k ≤ times.length, (after .pageDown (times.take k)).Shows lines i)
  := by
  intro s lines rows view after
  have hopened : ∃ width' height',
      (start snapshot agent agents theme (.ofScreen width height)).viewport
        = .ofScreen width' height' :=
    ⟨width, height, viewport_start snapshot agent agents theme _⟩
  obtain ⟨width', height', hviewport⟩ := exists_viewport_watch hopened moments
  have hrows : 0 < s.viewport.feedHeight := by
    rw [hviewport]
    exact Nat.lt_of_lt_of_le (by decide) (Nat.le_max_right _ _)
  have htracks : s.Tracks := (tracks_start _ _ _ _ _).watch moments
  have hup := fun times => top_run_pageUp_eq_zero hmode times
  have hdown := fun times => top_run_pageDown_eq_maxScroll hmode times
  have hpage := fun now => page_windows hmode now hrows
  refine ⟨htracks.layOut_fst, s.feedView_isSlice, hpage, hup, hdown, fun i hi => ?_⟩
  constructor
  · intro hend times htimes
    exact exists_shows_pageUp hmode times hrows hend htimes hi
  · intro hfront times htimes
    exact exists_shows_pageDown hmode times hrows hfront htimes hi

end Start

/-- Nine lines are looked at, and again on a screen of half the width, where the feed has three
rows and half a page is one: six presses lead from the end to the front, and each of the nine
lines is shown on the way. -/
theorem paging_passes_all_of_nine_lines :
  let snapshot : Snapshot :=
    { task := { id := "t" },
      messages := [⟨"m", .user, none, [⟨0, .text "a\nb\nc\nd\ne\nf\ng\nh\ni"⟩]⟩] }
  let opened := start snapshot ⟨"a", "A", "m"⟩ [] {} (.ofScreen 80 10)
  let s := opened.watch [.look, .event 0 (.resize 40 10), .look]
  let times := [1, 2, 3, 4, 5, 6]
  s.mode = .input ∧ s.conversation.length < UInt64.size ∧ s.layOut.1 = s.freshLayout
    ∧ (s.freshLayout.length, s.feedView.1.top, s.feedView.1.maxScroll) = (9, 6, 6)
    ∧ (s.run (repeated .pageUp times)).feedView.1.top = 0
    ∧ ∀ i < 9, ∃ k ≤ times.length,
      (s.run (repeated .pageUp (times.take k))).feedView.1.Shows s.layOut.1 i
  := by
  intro snapshot opened s times
  have hmode : s.mode = .input := by decide
  have hlength : s.conversation.length < UInt64.size := by decide
  have hview : (s.freshLayout.length, s.feedView.1.top, s.feedView.1.maxScroll) = (9, 6, 6) := by
    decide +kernel
  obtain ⟨hfresh, -, -, hup, -, hall⟩ := paging_passes_all snapshot ⟨"a", "A", "m"⟩ [] {} 80 10
    [.look, .event 0 (.resize 40 10), .look] hmode
  obtain ⟨hlines, hview'⟩ := Prod.mk.inj hview
  obtain ⟨htop, hmax⟩ := Prod.mk.inj hview'
  have hcount : s.feedView.1.maxScroll ≤ times.length := by
    rw [hmax]
    decide
  have hfront : ∀ times : List Nat, s.feedView.1.maxScroll ≤ times.length →
      (s.run (repeated .pageUp times)).feedView.1.top = 0 := hup
  refine ⟨hmode, hlength, hfresh hlength, hview, hfront times hcount, fun i hi => ?_⟩
  have hi' : i < s.layOut.1.length := by
    rw [hfresh hlength, hlines]
    exact hi
  exact (hall i hi').1 (htop.trans hmax.symm) times hcount

end Session

end TaskConsole
