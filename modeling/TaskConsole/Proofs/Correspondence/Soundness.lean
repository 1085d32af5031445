import TaskConsole.Proofs.Correspondence.Basic
import TaskConsole.Proofs.Text.Trim

/-!
# Sound correspondences

A correspondence is `Sound` when the session has seen what it has been told, and what the
service records was sent, is recorded once and under a name of its own.  A session opens
with a sound correspondence, and each move that is allowed keeps it sound
(`Correspondence.sound_after`).
-/

namespace TaskConsole

open Entry

/-! ### Entries of records -/

/-- A text of the user is recorded as one entry. -/
theorem Record.entries_own {text : String} (hblank : Text.isBlankText text = false)
    (place : Nat) (id : String) (index : Nat) (createdAt : Option Timestamp) :
  (own text place id index createdAt).message.entries
    = [{ id := (own text place id index createdAt).message.placeId index,
         kind := .userText text }]
  := Message.entries_of_text rfl rfl hblank

/-- No entry of a record has the name under which another one records a text. -/
def Record.Apart (r r' : Record) : Prop :=
  r'.send?.isSome → ∀ e ∈ r.message.entries, ∀ e' ∈ r'.message.entries, e.id ≠ e'.id

namespace Correspondence

/-! ### Soundness -/

/-- The session and the service agree on what passed. -/
structure Sound (c : Correspondence) : Prop where
  told_le : c.post.told ≤ c.post.log.length
  seen : ∀ id, id ∈ c.session.seen
    ↔ id ∈ (Record.entries (c.post.log.take c.post.told)).map Entry.id
  readable : ∀ text ∈ c.post.sent, Text.trim text = text ∧ Text.isBlankText text = false
  held : ∀ send ∈ Record.sends c.post.log, send ∈ c.post.sent.zipIdx
  news : ∀ m, .other m ∈ c.post.log.drop c.post.told → m.role ≠ .user
  apart : c.post.log.Pairwise Record.Apart
  once : ((Record.sends c.post.log).map Prod.snd ++ c.post.failed).Nodup
  failed_lt : ∀ place ∈ c.post.failed, place < c.post.sent.length

/-- What was opened is sound. -/
theorem sound_opened (snapshot : Snapshot) (agent : Agent) (agents : List Agent) (theme : Theme)
    (viewport : Viewport) :
  (opened snapshot agent agents theme viewport).Sound
  := by
  have hentries : Record.entries (snapshot.messages.map .other) = snapshot.entries := by
    rw [Record.entries, List.flatMap_map]
    rfl
  have hlength : (snapshot.messages.map Record.other).length = snapshot.messages.length :=
    List.length_map _
  constructor
  · apply Nat.le_of_eq hlength.symm
  · intro id
    apply ((Session.start_eq snapshot agent agents theme viewport).2.2.2 id).trans
    rw [opened, List.take_of_length_le (Nat.le_of_eq hlength), hentries]
  · intro text htext
    exact (List.not_mem_nil htext).elim
  · intro send hsend
    rw [opened, Record.sends_map_other] at hsend
    exact (List.not_mem_nil hsend).elim
  · intro m hm
    rw [opened, List.drop_of_length_le (Nat.le_of_eq hlength)] at hm
    exact (List.not_mem_nil hm).elim
  · rw [opened, List.pairwise_map, List.pairwise_iff_forall_sublist]
    intro m m' _ h
    exact (Bool.false_ne_true h).elim
  · rw [opened, Record.sends_map_other]
    apply List.nodup_nil
  · intro place hplace
    exact (List.not_mem_nil hplace).elim

/-- What is said is trimmed and not blank. -/
theorem readable_of_said {s : Session} {e : Event} {text : String}
    (h : text ∈ (s.turn e).said) :
  Text.trim text = text ∧ Text.isBlankText text = false
  := by
  cases hturn : s.turn e with
  | say said =>
    obtain ⟨rfl, hempty⟩ := Session.eq_of_turn_eq_say hturn
    rw [hturn] at h
    rw [List.mem_singleton.mp h]
    exact ⟨Text.trim_trim _, Text.isBlankText_trim hempty⟩
  | _ =>
    rw [hturn] at h
    exact (List.not_mem_nil h).elim

/-! ### Moves keep it -/

/-- An event that is quiet adds what it says to what was sent, and no more is seen. -/
theorem sound_event {c : Correspondence} (h : c.Sound) (now : Nat) {e : Event}
    (hquiet : (c.session.turn e).IsQuiet) :
  (c.apply (.event now e)).Sound
  := by
  obtain ⟨told_le, seen, readable, held, news, apart, once, failed_lt⟩ := h
  have hsent : (c.session.handle now e).2.filterMap Command.sentText?
      = (c.session.turn e).said :=
    c.session.handle_sent now e
  constructor
  · exact told_le
  · intro id
    apply (c.session.mem_seen_handle now e id).trans
    have hentries : (c.session.turn e).entries = [] := by
      cases hturn : c.session.turn e with
      | take snapshot =>
        rw [hturn] at hquiet
        exact hquiet.elim
      | _ => rfl
    rw [hentries]
    apply seen
  · intro text htext
    rw [apply, Post.send, hsent] at htext
    rcases List.mem_append.mp htext with htext | htext
    · apply readable text htext
    · apply readable_of_said htext
  · intro send hsend
    rw [apply, Post.send, List.zipIdx_append]
    apply List.mem_append_left _ (held send hsend)
  · exact news
  · exact apart
  · exact once
  · intro place hplace
    rw [apply, Post.send, List.length_append]
    apply Nat.lt_add_right _ (failed_lt place hplace)

/-- A record that the service may hold has a name of its own. -/
theorem apart_of_admits {p : Post} {r : Record} (h : p.Admits r)
    (hblank : ∀ send, r.send? = some send → Text.isBlankText send.1 = false) :
  ∀ held ∈ p.log, held.Apart r
  := by
  intro held hheld hown e he e' he'
  cases r with
  | own text place id index createdAt =>
    obtain ⟨-, hnames⟩ := h
    obtain ⟨hid, hcall⟩ := hnames held hheld
    rw [Record.entries_own (hblank _ rfl), List.mem_singleton] at he'
    rw [he']
    intro heq
    rcases Message.id_of_mem_entries he with ⟨i, hplace⟩ | hcallId
    · apply hid
      apply (Message.placeId_inj (hplace.symm.trans heq)).1
    · apply hcall
      apply heq ▸ hcallId
  | other m => exact (Bool.false_ne_true hown).elim

/-- The service may come to hold a record that it admits. -/
theorem sound_hold {c : Correspondence} (h : c.Sound) {r : Record} (hadmits : c.post.Admits r) :
  (c.apply (.hold r)).Sound
  := by
  obtain ⟨told_le, seen, readable, held, news, apart, once, failed_lt⟩ := h
  have htake : (c.post.log ++ [r]).take c.post.told = c.post.log.take c.post.told :=
    List.take_append_of_le_length told_le
  have hsend : ∀ send, r.send? = some send → c.post.IsOpen send.1 send.2 := by
    intro send hsend
    cases r with
    | own text place id index createdAt =>
      rw [← Option.some.inj hsend]
      exact hadmits.1
    | other m => cases hsend
  constructor
  · rw [apply, Post.hold, List.length_append]
    apply Nat.le_add_right_of_le told_le
  · intro id
    rw [apply, Post.hold, htake]
    apply seen
  · exact readable
  · intro send hmem
    rw [apply, Post.hold, Record.sends_append] at hmem
    rcases List.mem_append.mp hmem with hmem | hmem
    · apply held send hmem
    · obtain ⟨other, hother, hsome⟩ := List.mem_filterMap.mp hmem
      rw [List.mem_singleton.mp hother] at hsome
      apply (hsend send hsome).1
  · intro m hm
    rw [apply, Post.hold, List.drop_append_of_le_length told_le] at hm
    rcases List.mem_append.mp hm with hm | hm
    · apply news m hm
    · rw [← List.mem_singleton.mp hm] at hadmits
      exact hadmits
  · rw [apply, Post.hold, List.pairwise_append]
    use apart, List.pairwise_singleton _ r
    intro held hheld other hother
    rw [List.mem_singleton.mp hother]
    apply apart_of_admits hadmits _ held hheld
    intro send hsome
    apply (readable send.1 _).2
    apply List.fst_mem_of_mem_zipIdx (hsend send hsome).1
  · cases r with
    | own text place id index createdAt =>
      obtain ⟨⟨-, hfailed, hsends⟩, -⟩ := hadmits
      rw [apply, Post.hold, Record.sends_append, List.map_append, List.append_assoc]
      apply List.perm_middle.nodup_iff.mpr
      apply List.nodup_cons.mpr ⟨_, once⟩
      rw [List.mem_append, not_or]
      exact ⟨hsends, hfailed⟩
    | other m =>
      have hsame : Record.sends (c.post.log ++ [.other m]) = Record.sends c.post.log := by
        rw [Record.sends_append]
        apply List.append_nil
      rw [apply, Post.hold, hsame]
      exact once
  · exact failed_lt

/-- The session may learn that an open text was not sent. -/
theorem sound_refuse {c : Correspondence} (h : c.Sound) (now : Nat) {text : String} {place : Nat}
    (hopen : c.post.IsOpen text place) (notice : Notice) :
  (c.apply (.refuse now text place notice)).Sound
  := by
  obtain ⟨told_le, seen, readable, held, news, apart, once, failed_lt⟩ := h
  obtain ⟨hsent, hfailed, hsends⟩ := hopen
  constructor
  · exact told_le
  · intro id
    apply (c.session.mem_seen_handle now _ id).trans
    rw [turn_refused]
    apply seen
  · exact readable
  · exact held
  · exact news
  · exact apart
  · apply List.perm_middle.nodup_iff.mpr
    apply List.nodup_cons.mpr ⟨_, once⟩
    rw [List.mem_append, not_or]
    exact ⟨hsends, hfailed⟩
  · intro other hother
    rcases List.mem_cons.mp hother with rfl | hother
    · apply List.snd_lt_of_mem_zipIdx hsent
    · apply failed_lt other hother

/-- The session may be told the task with messages that the service holds. -/
theorem sound_snapshot {c : Correspondence} (h : c.Sound) (now : Nat) (head : Task) {count : Nat}
    (hcount : count ≤ c.post.log.length) :
  (c.apply (.snapshot now head count)).Sound
  := by
  obtain ⟨told_le, seen, readable, held, news, apart, once, failed_lt⟩ := h
  constructor
  · apply Nat.max_le.mpr ⟨told_le, hcount⟩
  · intro id
    apply (c.session.mem_seen_handle now _ id).trans
    rw [turn_fetched, Session.Turn.entries, Record.entries_map_message, List.mem_append, seen,
      apply, Post.tell]
    rcases Nat.le_total c.post.told count with hle | hle
    · rw [Nat.max_eq_right hle]
      apply or_iff_left_of_imp
      intro hmem
      apply Record.ids_subset (List.take_prefix_take_left hle) hmem
    · rw [Nat.max_eq_left hle]
      apply or_iff_right_of_imp
      intro hmem
      apply Record.ids_subset (List.take_prefix_take_left hle) hmem
  · exact readable
  · exact held
  · intro m hm
    apply news m
    apply List.Sublist.mem hm
    apply List.drop_sublist_drop_left
    apply Nat.le_max_left
  · exact apart
  · exact once
  · exact failed_lt

/-- An allowed move keeps a correspondence sound. -/
theorem sound_apply {c : Correspondence} (h : c.Sound) {move : Move} (hallowed : c.Allowed move) :
  (c.apply move).Sound
  := by
  cases move with
  | event now e => apply sound_event h now hallowed
  | hold r => apply sound_hold h hallowed
  | refuse now text place notice => apply sound_refuse h now hallowed notice
  | snapshot now head count => apply sound_snapshot h now head hallowed

/-- What holds of a sound correspondence, and is kept by allowed moves, holds after a run. -/
theorem after_induction {P : Correspondence → Prop} {c : Correspondence} (hsound : c.Sound)
    (start : P c)
    (step : ∀ c move, c.Sound → c.Allowed move → P c → P (c.apply move))
    {moves : List Move} (hruns : c.Runs moves) :
  P (c.after moves)
  := by
  induction moves generalizing c with
  | nil => exact start
  | cons move moves ih =>
    obtain ⟨hallowed, hrest⟩ := hruns
    apply ih (sound_apply hsound hallowed) (step c move hsound hallowed start) hrest

/-- A run keeps a correspondence sound. -/
theorem sound_after {c : Correspondence} (h : c.Sound) {moves : List Move}
    (hruns : c.Runs moves) :
  (c.after moves).Sound
  := after_induction h h (fun _ _ hsound hallowed _ => sound_apply hsound hallowed) hruns

end Correspondence

end TaskConsole
