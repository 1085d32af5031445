import Mathlib.Data.List.Induction
import TaskConsole.Proofs.Conversation.Feed
import TaskConsole.Proofs.Session.Layout

/-!
# Scrolling

A session keeps how far the end of its window lies above the end of the feed, and the window
never goes beyond the front whatever that number is.  No event but another size of the screen
brings the number beyond the lines that there are (`Session.IsWithin`); on a screen that shows
more of the feed it may lie beyond them, and then the window stays at the front until as many
presses of the key that moves it down have been used up.  So moving down by a line moves the
window exactly as long as the number is within the feed (`Session.top_after_moves`).
-/

namespace TaskConsole

/-! ### Windows -/

namespace Feed

/-- Where the window hides lines below, it moves down by a line if it was not kept beyond the
front, and otherwise it stays there. -/
theorem top_view_pred
    {lines : List Line} {height scroll : Nat}
    (h : (view lines height scroll).top < (view lines height scroll).maxScroll) :
  (view lines height (scroll - 1)).top =
    if scroll ≤ (view lines height scroll).maxScroll
    then (view lines height scroll).top + 1 else (view lines height scroll).top
  := by
  split
  · next hscroll =>
    simp only [view] at h hscroll ⊢
    omega
  · next hscroll =>
    simp only [view] at h hscroll ⊢
    omega

/-- Where the window hides lines above, it moves up by a line. -/
theorem top_view_succ
    {lines : List Line} {height scroll : Nat} (h : 0 < (view lines height scroll).top) :
  (view lines height (min (scroll + 1) (view lines height scroll).maxScroll)).top + 1
    = (view lines height scroll).top
  := by
  simp only [view] at h ⊢
  omega

end Feed

namespace Session

/-! ### The offset of the window -/

/-- Whether the offset of the window is within the lines that there are. -/
def IsWithin (s : Session) : Prop := s.scroll ≤ s.freshView.maxScroll

/-- What is the same about the window after an event: the theme and the size, and the offset,
unless it is less, or within the lines that there are. -/
structure KeepsWindow (s s' : Session) : Prop where
  theme : s'.theme = s.theme
  viewport : s'.viewport = s.viewport
  scroll : s'.scroll ≤ max s.scroll s.freshView.maxScroll

theorem KeepsWindow.of_scroll_eq
    {s s' : Session} (htheme : s'.theme = s.theme) (hviewport : s'.viewport = s.viewport)
    (hscroll : s'.scroll = s.scroll) :
  KeepsWindow s s'
  := by
  use htheme, hviewport
  rw [hscroll]
  apply Nat.le_max_left

theorem keepsWindow_notify (s : Session) (n : Notice) :
  KeepsWindow s (s.notify n)
  := by
  obtain ⟨_, _, h⟩ := s.exists_notify_eq n
  rw [h]
  exact .of_scroll_eq rfl rfl rfl

theorem keepsWindow_apply (s : Session) (snapshot : Snapshot) :
  KeepsWindow s (s.apply snapshot)
  := by
  obtain ⟨_, happly⟩ := s.exists_apply_eq snapshot
  obtain ⟨_, _, _, _, hentries⟩ := exists_foldl_met_eq snapshot.entries s
  rw [happly, hentries]
  exact .of_scroll_eq rfl rfl rfl

theorem Tracks.keepsWindow_handleInput
    {s : Session} (h : s.Tracks) (hlength : s.conversation.length < UInt64.size) (now : Nat)
    (action : KeyAction) :
  KeepsWindow s (s.handleInput now action).1
  := by
  have hup : ∀ lines, KeepsWindow s (s.scrollUp lines) := by
    intro lines
    rw [h.scrollUp_eq hlength]
    use rfl, rfl
    apply Nat.le_trans (Nat.min_le_right _ _) (Nat.le_max_right _ _)
  have hdown : ∀ lines, KeepsWindow s (s.scrollDown lines) := by
    intro lines
    use rfl, rfl
    apply Nat.le_trans (Nat.sub_le _ _) (Nat.le_max_left _ _)
  cases action with
  | clearOrQuit =>
    rw [Session.handleInput, clearOrQuit_eq]
    split
    · exact .of_scroll_eq rfl rfl rfl
    · exact .of_scroll_eq rfl rfl rfl
  | submit =>
    rw [Session.handleInput, submit]
    split
    · exact .of_scroll_eq rfl rfl rfl
    · exact ⟨rfl, rfl, Nat.zero_le _⟩
  | nextAgent =>
    rw [Session.handleInput, switchAgent]
    split
    · exact .of_scroll_eq rfl rfl rfl
    · exact .of_scroll_eq rfl rfl rfl
  | pageUp => apply hup
  | moveUp => apply hup
  | pageDown => apply hdown
  | moveDown => apply hdown
  | _ => exact .of_scroll_eq rfl rfl rfl

/-- No event but another size of the screen changes more about the window. -/
theorem Tracks.keepsWindow_handle
    {s : Session} (h : s.Tracks) (hlength : s.conversation.length < UInt64.size) (now : Nat)
    {e : Event} (hsize : ∀ width height, e ≠ .resize width height) :
  KeepsWindow s (s.handle now e).1
  := by
  cases e with
  | key action =>
    have hdisarm : ∀ s', KeepsWindow (s.disarm action) s' → KeepsWindow s s' := by
      intro s'
      rw [Session.disarm]
      split
      · exact id
      · rintro ⟨htheme, hviewport, hscroll⟩
        exact ⟨htheme, hviewport, hscroll⟩
    by_cases hignored : action = .ignored
    · rw [Session.handle, handleKey, if_pos hignored]
      exact .of_scroll_eq rfl rfl rfl
    · apply hdisarm
      cases hmode : s.mode with
      | help =>
        rw [Session.handle, handleKey_help hmode now hignored]
        exact .of_scroll_eq rfl rfl rfl
      | input =>
        rw [Session.handle, handleKey_input hmode now hignored]
        apply (h.disarm action).keepsWindow_handleInput
        rw [(s.disarm_alike action).conversation]
        exact hlength
  | outcome o =>
    rw [Session.handle]
    apply handleOutcome_cases (P := KeepsWindow s)
    · exact .of_scroll_eq rfl rfl rfl
    · intro text notice
      have hgiven := keepsWindow_notify
        { s with waiting := false, echoes := s.echoes.erase text } notice
      exact ⟨hgiven.theme, hgiven.viewport, hgiven.scroll⟩
    · apply keepsWindow_notify
    · apply keepsWindow_apply
    · intro model models
      exact .of_scroll_eq rfl rfl rfl
    · intro agents
      exact .of_scroll_eq rfl rfl rfl
  | resize width height => exact (hsize width height rfl).elim
  | serverTask taskId => exact .of_scroll_eq rfl rfl rfl
  | tick => exact .of_scroll_eq rfl rfl rfl

/-- No event but another size of the screen brings the offset beyond the lines that there
are. -/
theorem IsWithin.handle
    {s : Session} (hwithin : s.IsWithin) (h : s.Tracks)
    (hlength : s.conversation.length < UInt64.size) (now : Nat)
    {e : Event} (hsize : ∀ width height, e ≠ .resize width height) :
  (s.handle now e).1.IsWithin
  := by
  obtain ⟨htheme, hviewport, hscroll⟩ := h.keepsWindow_handle hlength now hsize
  have hlayout : s.freshLayout <+: (s.handle now e).1.freshLayout := by
    rw [freshLayout, freshLayout, htheme, hviewport, conversation_handle]
    apply Feed.layout_prefix
  have hbefore : s.scroll ≤ s.freshLayout.length - s.viewport.feedHeight := hwithin
  have hgrown : s.freshLayout.length - s.viewport.feedHeight
      ≤ (s.handle now e).1.freshLayout.length - (s.handle now e).1.viewport.feedHeight := by
    rw [hviewport]
    apply Nat.sub_le_sub_right hlayout.length_le
  apply Nat.le_trans _ hgrown
  rw [Nat.max_eq_right hwithin] at hscroll
  exact hscroll

/-! ### Runs -/

/-- In every reachable state a session keeps track of its conversation. -/
theorem Tracks.run {s : Session} (h : s.Tracks) (events : List (Nat × Event)) :
  (s.run events).Tracks
  := by
  induction events generalizing s with
  | nil => exact h
  | cons event events ih => exact ih (h.handle event.1 event.2)

/-- A run on a screen of one size never brings the offset beyond the lines that there are. -/
theorem IsWithin.run
    {s : Session} (hwithin : s.IsWithin) (h : s.Tracks) {events : List (Nat × Event)}
    (hlength : (s.run events).conversation.length < UInt64.size)
    (hsize : ∀ event ∈ events, ∀ width height, event.2 ≠ .resize width height) :
  (s.run events).IsWithin
  := by
  induction events using List.reverseRecOn with
  | nil => exact hwithin
  | append_singleton events event ih =>
    obtain ⟨now, e⟩ := event
    have hstep : s.run (events ++ [(now, e)]) = ((s.run events).handle now e).1 := by
      rw [run_append]
      rfl
    have hbefore : (s.run events).conversation.length < UInt64.size := by
      rw [hstep, conversation_handle] at hlength
      exact Nat.lt_of_le_of_lt (List.prefix_append _ _).length_le hlength
    have hwithin' := ih hbefore fun event' hevent' => hsize event' (List.mem_append_left _ hevent')
    rw [hstep]
    apply hwithin'.handle (h.run events) hbefore
    exact hsize (now, e) (List.mem_append_right _ List.mem_cons_self)

/-! ### Moving by a line -/

theorem Tracks.feedView_moveDown
    {s : Session} (h : s.Tracks) (hlength : s.conversation.length < UInt64.size)
    (hmode : s.mode = .input) (now : Nat) :
  (s.handle now (.key .moveDown)).1.feedView.1
    = Feed.view s.freshLayout s.viewport.feedHeight (s.scroll - 1)
  := by
  have htracks := h.handle now (.key .moveDown)
  have hdown : (s.handle now (.key .moveDown)).1
      = { s with armedAt := none, scroll := s.scroll - 1 } := by
    rw [Session.handle, handleKey_input hmode now (by decide)]
    rfl
  rw [hdown] at htracks ⊢
  apply htracks.feedView_fst hlength

theorem Tracks.feedView_moveUp
    {s : Session} (h : s.Tracks) (hlength : s.conversation.length < UInt64.size)
    (hmode : s.mode = .input) (now : Nat) :
  (s.handle now (.key .moveUp)).1.feedView.1
    = Feed.view s.freshLayout s.viewport.feedHeight
        (min (s.scroll + 1) s.freshView.maxScroll)
  := by
  have htracks := h.handle now (.key .moveUp)
  have hup : (s.handle now (.key .moveUp)).1 = laid { s with
      armedAt := none, scroll := min (s.scroll + 1) s.freshView.maxScroll }
      (s.disarm .moveUp).layOut.2.layout := by
    rw [Session.handle, handleKey_input hmode now (by decide), Session.handleInput,
      (h.disarm .moveUp).scrollUp_eq hlength]
    rfl
  rw [hup] at htracks ⊢
  apply htracks.feedView_fst hlength

section Start

variable (snapshot : Snapshot) (agent : Agent) (agents : List Agent) (theme : Theme)
  (viewport : Viewport)

/-- A session starts at the end of its feed. -/
theorem isWithin_start :
  (start snapshot agent agents theme viewport).IsWithin
  := by
  let bare : Session :=
    { theme := theme, task := snapshot.task, agent := agent, agents := agents,
      viewport := viewport }
  obtain ⟨_, happly⟩ := bare.exists_apply_eq snapshot
  obtain ⟨_, _, _, _, hentries⟩ := exists_foldl_met_eq snapshot.entries bare
  have hscroll : (bare.apply snapshot).scroll = 0 := by rw [happly, hentries]
  rw [start, IsWithin, hscroll]
  apply Nat.zero_le

/-- In every reachable state in which the prompt has the keys, moving down by a line moves a
window that hides lines below by exactly one if the offset is within the lines that there are,
and leaves it where it is otherwise; moving up by a line moves a window that hides lines above
by exactly one.  On a screen of one size the offset is always within the lines that there
are. -/
theorem top_after_moves
    (events : List (Nat × Event)) (now : Nat)
    (hlength : ((start snapshot agent agents theme viewport).run events).conversation.length
      < UInt64.size)
    (hmode : ((start snapshot agent agents theme viewport).run events).mode = .input) :
  let s := (start snapshot agent agents theme viewport).run events
  let view := s.feedView.1
  let lower := (s.handle now (.key .moveDown)).1.feedView.1
  let upper := (s.handle now (.key .moveUp)).1.feedView.1
  (view.top < view.maxScroll →
      lower.top = if s.scroll ≤ view.maxScroll then view.top + 1 else view.top)
    ∧ (0 < view.top → upper.top + 1 = view.top)
    ∧ ((∀ event ∈ events, ∀ width height, event.2 ≠ .resize width height) →
      s.scroll ≤ view.maxScroll)
  := by
  intro s view lower upper
  have hstart := tracks_start snapshot agent agents theme viewport
  have htracks : s.Tracks := hstart.run events
  have hview : view = s.freshView := htracks.feedView_fst hlength
  have hlower : lower = Feed.view s.freshLayout s.viewport.feedHeight (s.scroll - 1) :=
    htracks.feedView_moveDown hlength hmode now
  have hupper : upper = Feed.view s.freshLayout s.viewport.feedHeight
      (min (s.scroll + 1) s.freshView.maxScroll) := htracks.feedView_moveUp hlength hmode now
  rw [hview, hlower, hupper]
  constructor
  · apply Feed.top_view_pred
  constructor
  · apply Feed.top_view_succ
  · apply (isWithin_start snapshot agent agents theme viewport).run hstart hlength

end Start

/-- Six lines in a feed of three rows: two rows up, the window hides a line above and two lines
below, and moves by one either way. -/
theorem top_after_moves_of_six_lines :
  let snapshot : Snapshot :=
    { task := { id := "t" }, messages := [⟨"m", .user, none, [⟨0, .text "a\nb\nc\nd\ne\nf"⟩]⟩] }
  let opened := start snapshot ⟨"a", "A", "m"⟩ [] {} (.ofScreen 80 10)
  let s := opened.run [(0, .key .moveUp), (1, .key .moveUp)]
  s.conversation.length < UInt64.size ∧ s.mode = .input
    ∧ (s.feedView.1.top, s.feedView.1.maxScroll) = (1, 3) ∧ s.scroll ≤ s.feedView.1.maxScroll
    ∧ (s.handle 2 (.key .moveDown)).1.feedView.1.top = 2
    ∧ (s.handle 2 (.key .moveUp)).1.feedView.1.top = 0
  := by
  intro snapshot opened s
  have hlength : s.conversation.length < UInt64.size := by decide
  have hmode : s.mode = .input := by decide
  have htop : (s.feedView.1.top, s.feedView.1.maxScroll) = (1, 3) := by decide +kernel
  obtain ⟨hlower, hupper, hwithin⟩ :=
    top_after_moves snapshot ⟨"a", "A", "m"⟩ [] {} (.ofScreen 80 10)
      [(0, .key .moveUp), (1, .key .moveUp)] 2 hlength hmode
  obtain ⟨htop, hmax⟩ := Prod.mk.inj htop
  have hscroll := hwithin (by simp)
  rw [if_pos hscroll, htop, hmax] at hlower
  rw [htop] at hupper
  exact ⟨hlength, hmode, by rw [htop, hmax], hscroll, hlower (by decide),
    Nat.succ.inj (hupper (by decide))⟩

/-- Six lines in a feed of three rows are scrolled up to the front, and the feed gets a fourth
row.  The window hides two lines below then, and moving down by a line leaves it where it is. -/
theorem top_stays_after_resize :
  let snapshot : Snapshot :=
    { task := { id := "t" }, messages := [⟨"m", .user, none, [⟨0, .text "a\nb\nc\nd\ne\nf"⟩]⟩] }
  let opened := start snapshot ⟨"a", "A", "m"⟩ [] {} (.ofScreen 80 10)
  let s := opened.run [(0, .key .moveUp), (1, .key .moveUp), (2, .key .moveUp),
    (3, .resize 80 11)]
  s.mode = .input ∧ (s.feedView.1.top, s.feedView.1.maxScroll) = (0, 2)
    ∧ (s.handle 4 (.key .moveDown)).1.feedView.1.top = 0
  := by decide +kernel

end Session

end TaskConsole
