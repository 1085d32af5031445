import TaskConsole.Proofs.Session.Typing

/-!
# The layout that a session keeps

A session keeps the layout of its feed under the width and the number of the conversation that
it was made from.  The number counts the entries (`Session.Tracks`), so a layout that is kept
under the present one shows the present conversation, as long as the number has not come round
(`Session.Tracks.eq_freshLayout`).  Every event and every look at the feed leaves it so; a look
shows the feed as it is laid out afresh (`Session.Tracks.feedView_fst`), and scrolling goes by
that (`Session.Tracks.scrollUp_eq`).
-/

namespace TaskConsole.Session

/-- A session that keeps another layout of its feed, or none. -/
def laid (s : Session) (layout : Option Layout) : Session := { s with layout := layout }

/-- The window on the feed, laid out afresh. -/
def freshView (s : Session) : Feed.View :=
  Feed.view s.freshLayout s.viewport.feedHeight s.scroll

/-- A session keeps track of its conversation when the number of the conversation counts the
entries, and a layout that is kept shows as many of the entries as its number counts. -/
structure Tracks (s : Session) : Prop where
  generation : s.generation = UInt64.ofNat s.conversation.length
  layout : ∀ l ∈ s.layout, ∃ count ≤ s.conversation.length,
    l.generation = UInt64.ofNat count
      ∧ l.lines = Feed.layout s.theme l.width (s.conversation.take count)

/-- Numbers that have not come round are told apart. -/
theorem eq_of_ofNat_eq
    {count length : Nat} (hle : count ≤ length) (hlength : length < UInt64.size)
    (h : UInt64.ofNat count = UInt64.ofNat length) :
  count = length
  := by
  have htoNat := congrArg UInt64.toNat h
  rw [UInt64.toNat_ofNat_of_lt' hlength,
    UInt64.toNat_ofNat_of_lt' (Nat.lt_of_le_of_lt hle hlength)] at htoNat
  exact htoNat

/-- A kept layout that passes for the one of now is the one of now. -/
theorem Tracks.eq_freshLayout
    {s : Session} (h : s.Tracks) (hlength : s.conversation.length < UInt64.size)
    {lines : List Line} (hkept : s.keptLayout? = some lines) :
  lines = s.freshLayout
  := by
  rw [keptLayout?] at hkept
  cases hlayout : s.layout with
  | none => simp [hlayout] at hkept
  | some l =>
    simp only [hlayout, Option.ite_none_right_eq_some, Bool.and_eq_true, decide_eq_true_iff,
      Option.some.injEq] at hkept
    obtain ⟨⟨hwidth, hnumber⟩, rfl⟩ := hkept
    obtain ⟨count, hle, hcount, hlines⟩ := h.layout l hlayout
    have hall : count = s.conversation.length := by
      apply eq_of_ofNat_eq hle hlength
      rw [← hcount, hnumber, h.generation]
    rw [hlines, hall, List.take_length, hwidth, freshLayout]

theorem Tracks.layOut_fst
    {s : Session} (h : s.Tracks) (hlength : s.conversation.length < UInt64.size) :
  s.layOut.1 = s.freshLayout
  := by
  rw [layOut]
  cases hkept : s.keptLayout? with
  | some lines => exact h.eq_freshLayout hlength hkept
  | none => rfl

/-- Laying out changes the kept layout only. -/
theorem layOut_snd (s : Session) :
  s.layOut.2 = s.laid s.layOut.2.layout
  := by
  rw [layOut]
  cases s.keptLayout? with
  | some _ => rfl
  | none => rfl

/-- A look at the feed shows it as it is laid out afresh. -/
theorem Tracks.feedView_fst
    {s : Session} (h : s.Tracks) (hlength : s.conversation.length < UInt64.size) :
  s.feedView.1 = s.freshView
  := by
  have hview : s.feedView.1 =
      Feed.view s.layOut.1 s.layOut.2.viewport.feedHeight s.layOut.2.scroll := rfl
  rw [hview, h.layOut_fst hlength, layOut_snd]
  rfl

/-- Scrolling up goes by the feed as it is laid out afresh. -/
theorem Tracks.scrollUp_eq
    {s : Session} (h : s.Tracks) (hlength : s.conversation.length < UInt64.size) (lines : Nat) :
  s.scrollUp lines =
    laid { s with scroll := min (s.scroll + lines) s.freshView.maxScroll } s.layOut.2.layout
  := by
  have hscroll : s.scrollUp lines = { s.layOut.2 with
      scroll := min (s.layOut.2.scroll + lines) s.feedView.1.maxScroll } := rfl
  rw [hscroll, h.feedView_fst hlength, layOut_snd]
  rfl

/-! ### Events -/

/-- The layout that is kept after laying out shows the whole conversation. -/
theorem Tracks.layOut {s : Session} (h : s.Tracks) :
  s.layOut.2.Tracks
  := by
  rw [Session.layOut]
  cases s.keptLayout? with
  | some _ => exact h
  | none =>
    use h.generation
    intro l hl
    rw [← Option.some.inj hl]
    use s.conversation.length, Nat.le_refl _, h.generation
    rw [List.take_length]
    rfl

/-- A further entry is counted, and a layout from before it keeps its number. -/
theorem Tracks.append {s : Session} (h : s.Tracks) (e : Entry) :
  (s.append e).Tracks
  := by
  constructor
  · rw [Session.append, List.length_append, List.length_singleton, UInt64.ofNat_add, h.generation]
    rfl
  · intro l hl
    obtain ⟨count, hle, hcount, hlines⟩ := h.layout l hl
    rw [Session.append, List.length_append]
    use count, Nat.le_add_right_of_le hle, hcount
    rw [List.take_append_of_le_length hle]
    exact hlines

theorem Tracks.notify {s : Session} (h : s.Tracks) (n : Notice) :
  (s.notify n).Tracks
  := by
  have hcounted : s.countLocal.Tracks := ⟨h.generation, h.layout⟩
  rw [Session.notify]
  split
  · exact h
  · exact hcounted.append _

theorem Tracks.apply {s : Session} (h : s.Tracks) (snapshot : Snapshot) :
  (s.apply snapshot).Tracks
  := by
  have hentries : (snapshot.entries.foldl met s).Tracks := by
    generalize snapshot.entries = es
    induction es generalizing s with
    | nil => exact h
    | cons e es ih =>
      apply ih
      cases hfate : s.fate e with
      | known =>
        rw [met_of_known hfate]
        exact h
      | echoed =>
        rw [met_of_echoed hfate]
        exact ⟨h.generation, h.layout⟩
      | added =>
        have hseen : Tracks { s with seen := e.id :: s.seen } := ⟨h.generation, h.layout⟩
        rw [met_of_added hfate]
        exact hseen.append e
  obtain ⟨_, happly⟩ := s.exists_apply_eq snapshot
  rw [happly]
  exact ⟨hentries.generation, hentries.layout⟩

theorem Tracks.handleInput {s : Session} (h : s.Tracks) (now : Nat) (action : KeyAction) :
  (s.handleInput now action).1.Tracks
  := by
  have hscroll : ∀ lines, (s.scrollUp lines).Tracks := by
    intro lines
    exact ⟨h.layOut.generation, h.layOut.layout⟩
  cases action with
  | clearOrQuit =>
    rw [Session.handleInput, clearOrQuit_eq]
    split
    · exact ⟨h.generation, h.layout⟩
    · exact ⟨h.generation, h.layout⟩
  | submit =>
    rw [Session.handleInput, submit]
    split
    · exact h
    · have hcounted : Tracks { s with prompt := {} }.countLocal := ⟨h.generation, h.layout⟩
      have hsaid := fun e => hcounted.append e
      exact ⟨(hsaid _).generation, (hsaid _).layout⟩
  | nextAgent =>
    rw [Session.handleInput, switchAgent]
    split
    · exact h
    · exact ⟨h.generation, h.layout⟩
  | pageUp => apply hscroll
  | moveUp => apply hscroll
  | _ => exact ⟨h.generation, h.layout⟩

theorem Tracks.disarm {s : Session} (h : s.Tracks) (action : KeyAction) :
  (s.disarm action).Tracks
  := by
  rw [Session.disarm]
  split
  · exact h
  · exact ⟨h.generation, h.layout⟩

/-- Every event leaves a session that keeps track of its conversation one that does. -/
theorem Tracks.handle {s : Session} (h : s.Tracks) (now : Nat) (e : Event) :
  (s.handle now e).1.Tracks
  := by
  cases e with
  | key action =>
    have hdisarm := h.disarm action
    by_cases hignored : action = .ignored
    · rw [Session.handle, handleKey, if_pos hignored]
      exact h
    · cases hmode : s.mode with
      | help =>
        rw [Session.handle, handleKey_help hmode now hignored]
        exact ⟨hdisarm.generation, hdisarm.layout⟩
      | input =>
        rw [Session.handle, handleKey_input hmode now hignored]
        apply hdisarm.handleInput
  | outcome o =>
    rw [Session.handle]
    apply handleOutcome_cases
    · exact h
    · intro text notice
      have hgiven : Tracks { s with waiting := false, echoes := s.echoes.erase text } :=
        ⟨h.generation, h.layout⟩
      exact hgiven.notify notice
    · apply h.notify
    · apply h.apply
    · intro model models
      exact ⟨h.generation, h.layout⟩
    · intro agents
      exact ⟨h.generation, h.layout⟩
  | resize width height => exact ⟨h.generation, h.layout⟩
  | serverTask taskId => exact h
  | tick => exact ⟨h.generation, h.layout⟩

section Start

variable (snapshot : Snapshot) (agent : Agent) (agents : List Agent) (theme : Theme)
  (viewport : Viewport)

/-- A session that starts keeps track of its conversation. -/
theorem tracks_start :
  (start snapshot agent agents theme viewport).Tracks
  := by
  rw [start]
  apply Tracks.apply
  constructor
  · rfl
  · intro l hl
    cases hl

end Start

end TaskConsole.Session
