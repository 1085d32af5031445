import TaskConsole.Proofs.Session.Run

/-!
# Where the entries of a conversation come from

Every entry of a conversation was added by one event, so it comes from the service or
was made here (`Origin`).  Over a whole run the entries of the service are the first
occurrences by id in what the service offered, less those that were taken for echoes
(`Session.history_eq_firsts`); the others are what the user said, and notices.
-/

namespace TaskConsole.Session

open Entry

/-- Where an entry of a conversation comes from. -/
inductive Origin where
  | service | here
deriving DecidableEq

/-- Where the entries that an event adds come from: from the service if the event is a
snapshot of the task. -/
def origin (s : Session) (e : Event) : Origin :=
  match s.turn e with
  | .take _ => .service
  | _ => .here

/-- The entries that an event adds to the conversation, with where they come from. -/
def additions (s : Session) (now : Nat) (e : Event) : List (Origin × Entry) :=
  ((s.handle now e).1.conversation.drop s.conversation.length).map (s.origin e, ·)

/-- The entries of the snapshot that an event is, if it is one of the task. -/
def offers (s : Session) (_now : Nat) (e : Event) : List Entry := (s.turn e).entries

/-- The entries of the service that are taken for echoes at an event. -/
def absorbed (s : Session) (_now : Nat) (e : Event) : List Entry :=
  s.ofFate .echoed (s.turn e).entries

/-- A conversation with where its entries come from, after a run from its session; what
was there before the run is from the service. -/
def history (s : Session) (events : List (Nat × Event)) : List (Origin × Entry) :=
  s.conversation.map (Origin.service, ·) ++ s.along additions events

/-- The texts that are sent at an event. -/
def sends (s : Session) (now : Nat) (e : Event) : List String :=
  (s.handle now e).2.filterMap Command.sentText?

/-- The entries of one origin. -/
def ofOrigin (o : Origin) (history : List (Origin × Entry)) : List Entry :=
  (history.filter fun x => x.1 = o).map Prod.snd

theorem ofOrigin_append (o : Origin) (history history' : List (Origin × Entry)) :
  ofOrigin o (history ++ history') = ofOrigin o history ++ ofOrigin o history'
  := by
  rw [ofOrigin, List.filter_append, List.map_append]
  rfl

theorem ofOrigin_map (o o' : Origin) (es : List Entry) :
  ofOrigin o (es.map (o', ·)) = if o' = o then es else []
  := by
  rw [ofOrigin, List.filter_map, List.map_map]
  by_cases h : o' = o
  · rw [if_pos h, List.filter_eq_self.mpr (by simp [h])]
    apply List.map_id
  · rw [if_neg h, List.filter_eq_nil_iff.mpr (by simp [h])]
    rfl

/-- An event adds what its turn gains. -/
theorem additions_eq (s : Session) (now : Nat) (e : Event) :
  s.additions now e = (s.gain (s.turn e)).map (s.origin e, ·)
  := by
  rw [additions, conversation_handle, List.drop_left]

/-- What comes from the service at an event is added from its snapshot. -/
theorem ofOrigin_service_additions (s : Session) (now : Nat) (e : Event) :
  ofOrigin .service (s.additions now e) = s.ofFate .added (s.turn e).entries
  := by
  rw [additions_eq, ofOrigin_map, origin]
  cases s.turn e with
  | take snapshot => rfl
  | _ => rfl

/-- What is made here at an event is a text that it sends, or a notice. -/
theorem ofOrigin_here_additions (s : Session) (now : Nat) (e : Event) :
  userTexts (ofOrigin .here (s.additions now e)) = s.sends now e
    ∧ ∀ entry ∈ ofOrigin .here (s.additions now e),
      (∃ text, entry.kind = .userText text) ∨ ∃ notice, entry.kind = .notice notice
  := by
  rw [additions_eq, ofOrigin_map, origin, sends, handle_sent]
  have hnotice : ∀ notice, userTexts (s.noticed notice) = []
      ∧ ∀ entry ∈ s.noticed notice,
        (∃ text, entry.kind = .userText text) ∨ ∃ notice, entry.kind = .notice notice := by
    intro notice
    use s.userTexts_noticed notice
    rw [noticed]
    split
    · exact List.forall_mem_nil _
    · intro entry hentry
      right
      use notice
      rw [List.mem_singleton.mp hentry]
  cases s.turn e with
  | aside => exact ⟨rfl, List.forall_mem_nil _⟩
  | say text =>
    use rfl
    intro entry hentry
    left
    use text
    rw [List.mem_singleton.mp hentry]
  | refuse _ notice => exact hnotice notice
  | complain notice => exact hnotice notice
  | take snapshot => exact ⟨rfl, List.forall_mem_nil _⟩

/-! ### Along a run -/

/-- A run adds the entries that its events add. -/
theorem conversation_run (s : Session) (events : List (Nat × Event)) :
  (s.run events).conversation
    = s.conversation ++ (s.along additions events).map Prod.snd
  := by
  induction events generalizing s with
  | nil => exact (List.append_nil _).symm
  | cons event events ih =>
    obtain ⟨now, e⟩ := event
    have hstep : (s.additions now e).map Prod.snd = s.gain (s.turn e) := by
      rw [additions_eq, List.map_map]
      apply List.map_id
    have hrun : s.run ((now, e) :: events) = (s.handle now e).1.run events := rfl
    rw [hrun, ih, conversation_handle, along, List.map_append, hstep, List.append_assoc]

/-- What is taken for an echo in a run had not been seen before it. -/
theorem not_mem_seen_of_absorbed
    {s : Session} {events : List (Nat × Event)} {entry : Entry}
    (h : entry ∈ s.along absorbed events) :
  entry.id ∉ s.seen
  := by
  induction events generalizing s with
  | nil => exact (List.not_mem_nil h).elim
  | cons event events ih =>
    obtain ⟨now, e⟩ := event
    rcases List.mem_append.mp h with h | h
    · apply (mem_of_mem_ofFate (f := .echoed) (by decide) h).2
    · intro hseen
      apply ih h
      rw [mem_seen_handle]
      apply List.mem_append_right _ hseen

/-- Over a run, what comes from the service is what is fresh in what it offered, less what
was taken for echoes. -/
theorem ofOrigin_service_along (s : Session) (events : List (Nat × Event)) :
  ofOrigin .service (s.along additions events)
    = (fresh s.seen (s.along offers events)).filter fun e => e ∉ s.along absorbed events
  := by
  induction events generalizing s with
  | nil => rfl
  | cons event events ih =>
    obtain ⟨now, e⟩ := event
    have hseen : fresh ((s.turn e).entries.map Entry.id ++ s.seen)
        ((s.handle now e).1.along offers events)
        = fresh (s.handle now e).1.seen ((s.handle now e).1.along offers events) :=
      fresh_congr (fun id => (mem_seen_handle s now e id).symm) _
    rw [along, ofOrigin_append, ofOrigin_service_additions, ih, added_eq_fresh, along, along,
      offers, fresh_append, List.filter_append, hseen]
    congr 1
    · -- what is taken later has an id that is not among those of this snapshot
      apply List.filter_congr
      intro entry hentry
      have hlater : entry ∉ (s.handle now e).1.along absorbed events := by
        intro hmem
        apply not_mem_seen_of_absorbed hmem
        rw [mem_seen_handle]
        apply List.mem_append_left _ (List.mem_map_of_mem (mem_fresh hentry).1)
      simp [absorbed, hlater]
    · -- what was taken from this snapshot has been seen when the later ones come
      apply List.filter_congr
      intro entry hentry
      have hnow : entry ∉ s.absorbed now e := by
        intro hmem
        apply (mem_fresh hentry).2
        rw [mem_seen_handle]
        apply List.mem_append_left
        apply List.mem_map_of_mem (mem_of_mem_ofFate (f := .echoed) (by decide) hmem).1
      simp [hnow]

/-- What is made here over a run are the texts that it sends, and notices. -/
theorem ofOrigin_here_along (s : Session) (events : List (Nat × Event)) :
  userTexts (ofOrigin .here (s.along additions events)) = s.along sends events
    ∧ ∀ entry ∈ ofOrigin .here (s.along additions events),
      (∃ text, entry.kind = .userText text) ∨ ∃ notice, entry.kind = .notice notice
  := by
  induction events generalizing s with
  | nil => exact ⟨rfl, List.forall_mem_nil _⟩
  | cons event events ih =>
    obtain ⟨now, e⟩ := event
    obtain ⟨htexts, hkinds⟩ := s.ofOrigin_here_additions now e
    obtain ⟨hrestTexts, hrestKinds⟩ := ih (s.handle now e).1
    rw [along, ofOrigin_append, along]
    constructor
    · rw [userTexts, List.filterMap_append, ← userTexts, ← userTexts, htexts, hrestTexts]
    · intro entry hentry
      rcases List.mem_append.mp hentry with hentry | hentry
      · apply hkinds entry hentry
      · apply hrestKinds entry hentry

/-- Only texts of the user are taken for echoes in a run. -/
theorem exists_userText_of_absorbed
    {s : Session} {events : List (Nat × Event)} {entry : Entry}
    (h : entry ∈ s.along absorbed events) :
  ∃ text, entry.kind = .userText text
  := by
  obtain ⟨before, now, e, -, hmem⟩ := exists_of_mem_along h
  apply exists_userText_of_echoed hmem

/-- A conversation is its history. -/
theorem conversation_history (s : Session) (events : List (Nat × Event)) :
  (s.run events).conversation = (s.history events).map Prod.snd
  := by
  rw [conversation_run, history, List.map_append, List.map_map]
  congr 1
  symm
  apply List.map_id

/-- What is made here is made in the run. -/
theorem ofOrigin_here_history (s : Session) (events : List (Nat × Event)) :
  ofOrigin .here (s.history events) = ofOrigin .here (s.along additions events)
  := by
  rw [history, ofOrigin_append, ofOrigin_map, if_neg (by decide), List.nil_append]

section Start

variable (snapshot : Snapshot) (agent : Agent) (agents : List Agent) (theme : Theme)
  (viewport : Viewport)

/-- From the service come the first occurrences in all that it offered, the snapshot of the
start included, less what was taken for echoes. -/
theorem ofOrigin_service_history (events : List (Nat × Event)) :
  let opened := start snapshot agent agents theme viewport
  ofOrigin .service (opened.history events)
    = (firsts (snapshot.entries ++ opened.along offers events)).filter
      fun e => e ∉ opened.along absorbed events
  := by
  intro opened
  obtain ⟨-, hconversation, -, hseen⟩ := start_eq snapshot agent agents theme viewport
  have hfresh : fresh opened.seen (opened.along offers events)
      = fresh (snapshot.entries.map Entry.id ++ []) (opened.along offers events) := by
    apply fresh_congr
    intro id
    rw [List.append_nil]
    apply hseen
  have hfirst : ∀ entry ∈ firsts snapshot.entries, entry ∉ opened.along absorbed events := by
    intro entry hentry hmem
    apply not_mem_seen_of_absorbed hmem
    apply (hseen _).mpr (List.mem_map_of_mem (mem_of_mem_firsts hentry))
  rw [history, ofOrigin_append, ofOrigin_map, if_pos rfl, ofOrigin_service_along, hfresh,
    ← fresh_nil_seen (snapshot.entries ++ _), fresh_append, List.filter_append, fresh_nil_seen]
  congr 1
  rw [List.filter_eq_self.mpr (by simpa using hfirst)]
  apply hconversation

/-- In every reachable state a conversation is its history, of which the entries of the
service are the first occurrences by id in all that the service offered, less the texts
of the user that were taken for echoes.  No id comes from the service twice; the other
entries are the texts that were sent, in order, and notices; and every event adds to the
end of the conversation. -/
theorem history_eq_firsts (events : List (Nat × Event)) :
  let opened := start snapshot agent agents theme viewport
  let s := opened.run events
  let offered := snapshot.entries ++ opened.along offers events
  let echoed := opened.along absorbed events
  let history := opened.history events
  s.conversation = history.map Prod.snd
    ∧ ofOrigin .service history = (firsts offered).filter (fun e => e ∉ echoed)
    ∧ ((ofOrigin .service history).map Entry.id).Nodup
    ∧ (∀ entry ∈ echoed, ∃ text, entry.kind = .userText text)
    ∧ userTexts (ofOrigin .here history) = opened.along sends events
    ∧ (∀ entry ∈ ofOrigin .here history,
      (∃ text, entry.kind = .userText text) ∨ ∃ notice, entry.kind = .notice notice)
    ∧ ∀ now e, s.conversation <+: (s.handle now e).1.conversation
  := by
  intro opened s offered echoed history
  have hservice := ofOrigin_service_history snapshot agent agents theme viewport events
  have hhere := opened.ofOrigin_here_history events
  obtain ⟨hhereTexts, hhereKinds⟩ := opened.ofOrigin_here_along events
  constructor
  · apply conversation_history
  constructor
  · exact hservice
  constructor
  · rw [hservice]
    apply (nodup_firsts offered).sublist (List.filter_sublist.map _)
  constructor
  · intro entry hentry
    apply exists_userText_of_absorbed hentry
  constructor
  · rw [hhere]
    exact hhereTexts
  constructor
  · rw [hhere]
    exact hhereKinds
  · intro now e
    rw [conversation_handle]
    apply List.prefix_append

end Start

end TaskConsole.Session
