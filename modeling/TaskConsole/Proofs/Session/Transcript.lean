import TaskConsole.Proofs.Conversation.Feed
import TaskConsole.Proofs.Session.Run

/-!
# The feed of a session

No text of the user in a conversation is empty (`Session.kind_ne_of_mem_run`): what was typed is
sent only if something is left of it without the blanks at its ends, and of what the service
tells no blank text becomes an entry.  So every entry has its block of rows in the feed, with one
empty line between neighbours, and no text of it is lost there (`Session.feed_keeps_entries`).
-/

namespace TaskConsole

/-- No entry of a message is an empty text of the user. -/
theorem Message.kind_ne_of_mem_entries {m : Message} {e : Entry} (h : e ∈ m.entries) :
  e.kind ≠ .userText ""
  := by
  obtain ⟨p, -, hentry⟩ := List.mem_filterMap.mp h
  rw [ entry?] at hentry
  split at hentry
  · next text _ =>
    split at hentry
    · cases hentry
    · next hblank =>
      rw [← Option.some.inj hentry]
      -- an empty text is blank
      have hsome : text ≠ "" := by
        rintro rfl
        exact hblank rfl
      simp only
      split
      · simpa using hsome
      · nofun
  · rw [← Option.some.inj hentry]
    nofun
  · rw [← Option.some.inj hentry]
    nofun

/-- No entry of a snapshot is an empty text of the user. -/
theorem Snapshot.kind_ne_of_mem_entries {snapshot : Snapshot} {e : Entry}
    (h : e ∈ snapshot.entries) :
  e.kind ≠ .userText ""
  := by
  obtain ⟨m, -, hentry⟩ := List.mem_flatMap.mp h
  apply Message.kind_ne_of_mem_entries hentry

namespace Session

/-- No event adds an empty text of the user to the conversation. -/
theorem kind_ne_of_mem_gain {s : Session} {event : Event} {e : Entry}
    (h : e ∈ s.gain (s.turn event)) :
  e.kind ≠ .userText ""
  := by
  have hnoticed : ∀ notice, e ∈ s.noticed notice → e.kind ≠ .userText "" := by
    intro notice hmem
    rw [noticed] at hmem
    split at hmem
    · exact (List.not_mem_nil hmem).elim
    · rw [List.mem_singleton.mp hmem]
      intro hkind
      cases hkind
  cases hturn : s.turn event with
  | aside =>
    rw [hturn] at h
    exact (List.not_mem_nil h).elim
  | say text =>
    have hsome := (eq_of_turn_eq_say hturn).2
    rw [hturn] at h
    rw [List.mem_singleton.mp h]
    intro hkind
    rw [EntryKind.userText.inj hkind] at hsome
    cases hsome
  | refuse text notice =>
    rw [hturn] at h
    apply hnoticed _ h
  | complain notice =>
    rw [hturn] at h
    apply hnoticed _ h
  | take snapshot =>
    rw [hturn] at h
    apply Snapshot.kind_ne_of_mem_entries (mem_of_mem_ofFate (f := .added) (by decide) h).1

/-- As long as no text of the user in the conversation is empty, none becomes so in a run. -/
theorem kind_ne_of_mem_run {s : Session} (hs : ∀ e ∈ s.conversation, e.kind ≠ .userText "")
    {events : List (Nat × Event)} {e : Entry} (h : e ∈ (s.run events).conversation) :
  e.kind ≠ .userText ""
  := by
  induction events generalizing s with
  | nil => exact hs e h
  | cons event events ih =>
    apply ih (s := (s.handle event.1 event.2).1) _ h
    intro e' he'
    rw [conversation_handle] at he'
    rcases List.mem_append.mp he' with hbefore | hgained
    · apply hs e' hbefore
    · apply kind_ne_of_mem_gain hgained

/-- Whatever happens to a session, the feed of its conversation, in any theme and width, is one
block of rows for each entry, in the order of the conversation, with one empty line between
neighbours.  Every block has a row, and apart from spaces and line feeds it has the text of the
lines of its entry.  Whatever entries are added, they are laid out below what is there. -/
theorem feed_keeps_entries (snapshot : Snapshot) (agent : Agent) (agents : List Agent)
    (opening : Theme) (viewport : Viewport) (events : List (Nat × Event)) (theme : Theme)
    (width : Nat) :
  let s := (start snapshot agent agents opening viewport).run events
  (∃ blocks : List (List Line),
      Feed.layout theme width s.conversation = List.intercalate [.empty] blocks
        ∧ List.Forall₂ (fun block e => block ≠ []
          ∧ Feed.shownText block = Feed.shownText (e.render theme)) blocks s.conversation)
    ∧ ∀ more, Feed.layout theme width s.conversation
      <+: Feed.layout theme width (s.conversation ++ more)
  := by
  intro s
  have hopened : ∀ e ∈ (start snapshot agent agents opening viewport).conversation,
      e.kind ≠ .userText "" := by
    intro e he
    rw [(start_eq snapshot agent agents opening viewport).2.1] at he
    apply Snapshot.kind_ne_of_mem_entries (Entry.mem_of_mem_firsts he)
  constructor
  · use s.conversation.map (Feed.entryRows theme width), rfl
    rw [List.forall₂_map_left_iff, List.forall₂_same]
    intro e he
    constructor
    · apply Feed.entryRows_ne_nil
      apply kind_ne_of_mem_run hopened he
    · apply Feed.shownText_entryRows
  · intro more
    apply Feed.layout_prefix

end Session

end TaskConsole
