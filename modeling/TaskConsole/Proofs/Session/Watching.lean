import TaskConsole.Proofs.Session.Binding
import TaskConsole.Proofs.Session.Layout
import TaskConsole.Proofs.Session.Retouch

/-!
# Looks at the feed

Someone may look at the feed of a session between any two events (`Session.Moment`), and each
look makes the session keep a layout.  But no event does anything else to a session that keeps
another layout (`Session.exists_handle_laid`).  So a look shows the feed as it is laid out
afresh, and it makes no difference to anything that follows whether anyone has looked before
(`Session.watched_same_apart_from_layout`).
-/

namespace TaskConsole.Session

/-! ### What does not hang on the layout -/

/-- To keep another layout is one way of being retouched. -/
theorem laid_eq_retouched (s : Session) (layout : Option Layout) :
  s.laid layout = s.retouched { keep := fun _ => layout }
  := rfl

section Alike

variable {s : Session} {layout : Option Layout}

/-- While the prompt has the keys, a key does the same whatever layout is kept, the layout
that is kept then apart. -/
theorem exists_handleInput_laid
    (h : s.Tracks) (h' : (s.laid layout).Tracks) (hlength : s.conversation.length < UInt64.size)
    (now : Nat) (action : KeyAction) :
  ∃ layout', (s.laid layout).handleInput now action
    = ((s.handleInput now action).1.laid layout', (s.handleInput now action).2)
  := by
  have hscroll : ∀ lines, ∃ layout',
      (s.laid layout).scrollUp lines = (s.scrollUp lines).laid layout' := by
    intro lines
    use (s.laid layout).layOut.2.layout
    rw [h.scrollUp_eq hlength, h'.scrollUp_eq hlength]
    rfl
  cases action with
  | clearOrQuit =>
    refine ⟨layout, ?_⟩
    rw [handleInput, handleInput, laid_eq_retouched, laid_eq_retouched,
      clearOrQuit_retouched s _ rfl]
  | submit =>
    refine ⟨layout, ?_⟩
    rw [handleInput, handleInput, laid_eq_retouched, laid_eq_retouched, submit_retouched s _ rfl]
  | nextAgent =>
    refine ⟨layout, ?_⟩
    rw [handleInput, handleInput, laid_eq_retouched, laid_eq_retouched, switchAgent_retouched]
  | pageUp =>
    obtain ⟨layout', hsame⟩ := hscroll s.viewport.halfPage
    use layout'
    rw [handleInput, handleInput, ← hsame]
    rfl
  | moveUp =>
    obtain ⟨layout', hsame⟩ := hscroll 1
    use layout'
    rw [handleInput, handleInput, ← hsame]
  | _ => exact ⟨layout, rfl⟩

/-- An event does the same whatever layout is kept, the layout that is kept then apart. -/
theorem exists_handle_laid
    (h : s.Tracks) (h' : (s.laid layout).Tracks) (hlength : s.conversation.length < UInt64.size)
    (now : Nat) (e : Event) :
  ∃ layout', (s.laid layout).handle now e
    = ((s.handle now e).1.laid layout', (s.handle now e).2)
  := by
  cases e with
  | key action =>
    have hdisarm : (s.laid layout).disarm action = (s.disarm action).laid layout := by
      rw [laid_eq_retouched, laid_eq_retouched, disarm_retouched]
    by_cases hignored : action = .ignored
    · use layout
      simp only [handle, handleKey, if_pos hignored]
    · cases hmode : s.mode with
      | help =>
        have hmode' : (s.laid layout).mode = .help := hmode
        use layout
        rw [handle, handle, handleKey_help hmode now hignored, handleKey_help hmode' now hignored,
          hdisarm]
        rfl
      | input =>
        have hmode' : (s.laid layout).mode = .input := hmode
        rw [handle, handle, handleKey_input hmode now hignored,
          handleKey_input hmode' now hignored, hdisarm]
        apply exists_handleInput_laid
        · apply h.disarm
        · rw [← hdisarm]
          apply h'.disarm
        · rw [(s.disarm_alike action).conversation]
          exact hlength
  | outcome o =>
    refine ⟨layout, ?_⟩
    rw [handle, handle, laid_eq_retouched, laid_eq_retouched, handleOutcome_retouched s _ rfl]
  | _ => exact ⟨layout, rfl⟩

end Alike

/-! ### Looks at the feed -/

/-- A moment of a session: something happens, or someone looks at the feed. -/
inductive Moment where
  | event (now : Nat) (e : Event)
  | look

/-- What happens at a moment, if something does. -/
def Moment.event? : Moment → Option (Nat × Event)
  | event now e => some (now, e)
  | look => none

/-- A session after a moment, and the commands that the moment calls for. -/
def live (s : Session) : Moment → Session × List Command
  | .event now e => s.handle now e
  | .look => (s.feedView.2, [])

/-- A session after moments. -/
def watch (s : Session) (moments : List Moment) : Session :=
  moments.foldl (fun s moment => (s.live moment).1) s

/-- The commands that moments call for, one after another. -/
def called (s : Session) : List Moment → List Command
  | [] => []
  | moment :: moments => (s.live moment).2 ++ called (s.live moment).1 moments

/-- A look keeps a layout. -/
theorem live_look (s : Session) :
  s.live .look = (s.laid s.layOut.2.layout, [])
  := by
  have hlook : s.live .look = (s.layOut.2, []) := rfl
  rw [hlook, layOut_snd]
  rfl

/-- At every moment the conversation goes on from what it was. -/
theorem conversation_watch (s : Session) (moments : List Moment) :
  s.conversation <+: (s.watch moments).conversation
  := by
  induction moments generalizing s with
  | nil => exact List.prefix_rfl
  | cons moment moments ih =>
    apply List.IsPrefix.trans _ (ih (s.live moment).1)
    cases moment with
    | event now e =>
      rw [live, conversation_handle]
      apply List.prefix_append
    | look =>
      rw [live_look]
      exact List.prefix_rfl

/-- Two sessions that are the same apart from the layout that they keep go the same way, if
someone looks at the feed of one of them now and then. -/
theorem Tracks.watch_laid
    {s : Session} {layout : Option Layout} (h : s.Tracks) (h' : (s.laid layout).Tracks)
    {moments : List Moment}
    (hlength : ((s.laid layout).watch moments).conversation.length < UInt64.size) :
  (∃ layout',
      (s.laid layout).watch moments = (s.run (moments.filterMap Moment.event?)).laid layout')
    ∧ ((s.laid layout).watch moments).Tracks
    ∧ (s.run (moments.filterMap Moment.event?)).Tracks
    ∧ (s.laid layout).called moments = s.along commands (moments.filterMap Moment.event?)
  := by
  induction moments generalizing s layout with
  | nil => exact ⟨⟨layout, rfl⟩, h', h, rfl⟩
  | cons moment moments ih =>
    -- the conversation only grows, so if it can be counted in the end, it can be counted now
    have hnow : s.conversation.length < UInt64.size :=
      Nat.lt_of_le_of_lt ((s.laid layout).conversation_watch _).length_le hlength
    have hwatch : (s.laid layout).watch (moment :: moments)
        = ((s.laid layout).live moment).1.watch moments := rfl
    rw [hwatch] at hlength ⊢
    cases moment with
    | look =>
      rw [called]
      rw [live_look] at hlength ⊢
      have hlooked := h'.layOut
      rw [layOut_snd] at hlooked
      exact ih h hlooked hlength
    | event now e =>
      obtain ⟨layout', hsame⟩ := exists_handle_laid h h' hnow now e
      have hlive : (s.laid layout).live (.event now e)
          = ((s.handle now e).1.laid layout', (s.handle now e).2) := hsame
      have hnext := h'.handle now e
      rw [hsame] at hnext
      rw [called]
      rw [hlive] at hlength ⊢
      obtain ⟨hrun, hwatched, halone, hcalled⟩ := ih (h.handle now e) hnext hlength
      exact ⟨hrun, hwatched, halone, congrArg ((s.handle now e).2 ++ ·) hcalled⟩

section Start

variable (snapshot : Snapshot) (agent : Agent) (agents : List Agent) (theme : Theme)
  (viewport : Viewport)

/-- As long as the entries of a conversation can be counted, whatever happens to a session and
however often someone looks at its feed in between: a look shows the feed as it is laid out
afresh; and all is the same as if nobody had looked before, the layout that is kept apart: the
session, the commands that were called for, those that any next event calls for, and what the
feed shows. -/
theorem watched_same_apart_from_layout
    (moments : List Moment)
    (hlength : ((start snapshot agent agents theme viewport).watch moments).conversation.length
      < UInt64.size) :
  let opened := start snapshot agent agents theme viewport
  let watched := opened.watch moments
  let alone := opened.run (moments.filterMap Moment.event?)
  watched.feedView.1 = Feed.view
      (Feed.layout watched.theme watched.viewport.feedWidth watched.conversation)
      watched.viewport.feedHeight watched.scroll
    ∧ alone.feedView.1 = watched.feedView.1
    ∧ watched = { alone with layout := watched.layout }
    ∧ opened.called moments = opened.along commands (moments.filterMap Moment.event?)
    ∧ ∀ now e, (watched.handle now e).2 = (alone.handle now e).2
  := by
  intro opened watched alone
  have hopened : opened.Tracks := tracks_start snapshot agent agents theme viewport
  have hself : (opened.laid opened.layout).Tracks := hopened
  obtain ⟨⟨layout, hsame⟩, hwatched, halone, hcalled⟩ := hopened.watch_laid hself hlength
  have hrest : watched = alone.laid layout := hsame
  have hview : watched.feedView.1 = watched.freshView := hwatched.feedView_fst hlength
  have hlength' : watched.conversation.length < UInt64.size := hlength
  rw [hrest] at hlength'
  use hview
  constructor
  · rw [hview, halone.feedView_fst hlength', hrest]
    rfl
  constructor
  · rw [hrest]
    rfl
  use hcalled
  intro now e
  have htracks : (alone.laid layout).Tracks := by
    rw [← hrest]
    exact hwatched
  obtain ⟨_, hnext⟩ := exists_handle_laid halone htracks hlength' now e
  rw [hrest, hnext]

end Start

/-- Four lines in a feed of three rows are looked at, a text is sent, the feed is looked at on
a narrower screen and scrolled up, and looked at again on the screen of before.  The layout
that is kept in the end is another one than if nobody had looked, and the feed shows the same:
it is one row up from the text that was sent. -/
theorem watched_same_across_sizes :
  let snapshot : Snapshot :=
    { task := { id := "t" }, messages := [⟨"m", .user, none, [⟨0, .text "a\nb\nc\nd"⟩]⟩] }
  let agent : Agent := ⟨"a", "A", "m"⟩
  let opened := start snapshot agent [] {} (.ofScreen 80 10)
  let moments : List Moment := [.look, .event 0 (.key (.insert 'x')), .event 1 (.key .submit),
    .event 2 (.resize 10 10), .look, .event 3 (.key .moveUp), .look, .event 4 (.resize 80 10),
    .look]
  let watched := opened.watch moments
  let alone := opened.run (moments.filterMap Moment.event?)
  watched.conversation.length < UInt64.size
    ∧ (watched.layout.map Layout.width, alone.layout.map Layout.width) = (some 78, some 8)
    ∧ (watched.feedView.1.lines.map Line.text, watched.feedView.1.top) = (["  c", "  d", ""], 2)
    ∧ alone.feedView.1 = watched.feedView.1
    ∧ opened.called moments = [.sendMessage "t" "x" "a"]
  := by
  intro snapshot agent opened moments watched alone
  have hlength : watched.conversation.length < UInt64.size := by decide
  obtain ⟨-, halone, -, hcalled, -⟩ :=
    watched_same_apart_from_layout snapshot agent [] {} (.ofScreen 80 10) moments hlength
  have hsent : opened.along commands (moments.filterMap Moment.event?)
      = [.sendMessage "t" "x" "a"] := by
    decide
  exact ⟨hlength, by decide, by decide +kernel, halone, hcalled.trans hsent⟩

end TaskConsole.Session
