import TaskConsole.Proofs.Correspondence.Soundness
import TaskConsole.Proofs.Session.Settlement

/-!
# What moves show

The texts of the user in a conversation (`Correspondence.shown`) and the echoes, after each
kind of move: what is said is shown and waited for, a text that was not sent takes the
first echo equal to it away, and of what a snapshot tells, only the texts of the user that
are new concern the echoes, and settle them (`Correspondence.snapshot_effect`).
-/

namespace TaskConsole

open Entry

/-- Records of texts that are not blank, and messages of the agent, have no texts of the
user but those that are recorded. -/
theorem Record.userTexts_entries {rs : List Record}
    (hblank : ∀ send ∈ sends rs, Text.isBlankText send.1 = false)
    (hother : ∀ m, other m ∈ rs → m.role ≠ .user) :
  userTexts (entries rs) = (sends rs).map Prod.fst
  := by
  induction rs with
  | nil => rfl
  | cons r rs ih =>
    have hrest : userTexts (entries rs) = (sends rs).map Prod.fst := by
      apply ih
      · intro send hsend
        apply hblank send
        apply List.Sublist.mem hsend ((List.sublist_cons_self r rs).filterMap send?)
      · intro m hm
        apply hother m (List.mem_cons_of_mem _ hm)
    have hentries : entries (r :: rs) = r.message.entries ++ entries rs := List.flatMap_cons
    rw [hentries, userTexts_append, hrest]
    cases r with
    | own text place id index createdAt =>
      rw [entries_own (hblank (text, place) List.mem_cons_self)]
      rfl
    | other m =>
      have hnone : userTexts (other m).message.entries = [] := by
        rw [userTexts, List.filterMap_eq_nil_iff]
        intro e he
        apply Message.userText?_of_mem_entries (hother m List.mem_cons_self) he
      rw [hnone]
      rfl

namespace Correspondence

/-- The texts of the user in the conversation, in order. -/
def shown (c : Correspondence) : List String := userTexts c.session.conversation

/-- What is said in a quiet turn is shown, and waited for as an echo. -/
theorem event_effect {c : Correspondence} (now : Nat) {e : Event}
    (hquiet : (c.session.turn e).IsQuiet) :
  (c.apply (.event now e)).shown = c.shown ++ (c.session.turn e).said
    ∧ (c.apply (.event now e)).session.echoes = c.session.echoes ++ (c.session.turn e).said
    ∧ (c.apply (.event now e)).post = c.post.send (c.session.turn e).said
  := by
  have hgain : userTexts (c.session.gain (c.session.turn e)) = (c.session.turn e).said := by
    cases hturn : c.session.turn e with
    | complain notice => apply Session.userTexts_noticed
    | refuse text notice => exact (hturn ▸ hquiet).elim
    | take snapshot => exact (hturn ▸ hquiet).elim
    | _ => rfl
  have hechoes : c.session.echoesAfter (c.session.turn e)
      = c.session.echoes ++ (c.session.turn e).said := by
    cases hturn : c.session.turn e with
    | say text => rfl
    | refuse text notice => exact (hturn ▸ hquiet).elim
    | take snapshot => exact (hturn ▸ hquiet).elim
    | _ => exact (List.append_nil _).symm
  constructor
  · rw [shown, apply, Session.conversation_handle, userTexts_append, hgain]
    rfl
  constructor
  · rw [apply, Session.echoes_handle, hechoes]
  · rw [apply, Session.handle_sent]

/-- A text that was not sent takes the first echo that is equal to it away. -/
theorem refuse_effect (c : Correspondence) (now : Nat) (text : String) (place : Nat)
    (notice : Notice) :
  (c.apply (.refuse now text place notice)).shown = c.shown
    ∧ (c.apply (.refuse now text place notice)).session.echoes = c.session.echoes.erase text
  := by
  constructor
  · rw [shown, apply, Session.conversation_handle, turn_refused, userTexts_append, Session.gain,
      Session.userTexts_noticed]
    apply List.append_nil
  · rw [apply, Session.echoes_handle, turn_refused]
    rfl

/-- What a longer list of first messages tells, or a shorter one. -/
theorem take_max {α : Type} (xs : List α) (m n : Nat) :
  xs.take (max m n) = xs.take m ++ (xs.take n).drop m
  := by
  rcases Nat.le_total m n with h | h
  · rw [Nat.max_eq_right h]
    have hfirst : (xs.take n).take m = xs.take m := by rw [List.take_take, Nat.min_eq_left h]
    rw [← hfirst, List.take_append_drop]
  · have hlength : (xs.take n).length ≤ m := Nat.le_trans (List.length_take_le n xs) h
    rw [Nat.max_eq_left h, List.drop_of_length_le hlength, List.append_nil]

/-- A snapshot tells what it has that was not told before. -/
theorem toldSends_tell (p : Post) (count : Nat) :
  (p.tell count).toldSends = p.toldSends ++ p.news count
  := by
  rw [Post.toldSends, Post.tell, take_max, Record.sends_append]
  rfl

/-- What was told is held. -/
theorem toldSends_sublist (p : Post) :
  p.toldSends.Sublist (Record.sends p.log)
  := (List.take_sublist _ _).filterMap _

/-- What was told stays the same when the service comes to hold another message. -/
theorem toldSends_hold {c : Correspondence} (h : c.Sound) (r : Record) :
  (c.post.hold r).toldSends = c.post.toldSends
  := by
  rw [Post.toldSends, Post.hold, List.take_append_of_le_length h.told_le]
  rfl

/-- What a snapshot tells for the first time is told by no earlier one. -/
theorem untold_sublist (p : Post) (count : Nat) :
  (p.untold count).Sublist (p.log.drop p.told)
  := by
  rw [Post.untold, List.drop_take]
  apply List.take_sublist

/-- What a snapshot tells for the first time was sent, so it is trimmed and not blank. -/
theorem readable_news {c : Correspondence} (h : c.Sound) {count : Nat} {send : String × Nat}
    (hsend : send ∈ c.post.news count) :
  Text.trim send.1 = send.1 ∧ Text.isBlankText send.1 = false
  := by
  apply h.readable
  apply List.fst_mem_of_mem_zipIdx (h.held send _)
  apply List.Sublist.mem hsend
  apply List.Sublist.filterMap
  apply (untold_sublist c.post count).trans (List.drop_sublist _ _)

/-- The texts of the user that a snapshot tells for the first time are those that were sent. -/
theorem userTexts_untold {c : Correspondence} (h : c.Sound) (count : Nat) :
  userTexts (Record.entries (c.post.untold count)) = (c.post.news count).map Prod.fst
  := by
  apply Record.userTexts_entries
  · intro send hsend
    apply (readable_news h hsend).2
  · intro m hm
    apply h.news m ((untold_sublist c.post count).mem hm)

/-- What a snapshot tells once more has been seen. -/
theorem seen_of_told {c : Correspondence} (h : c.Sound) {count : Nat} {e : Entry}
    (he : e ∈ Record.entries ((c.post.log.take count).take c.post.told)) :
  e.id ∈ c.session.seen
  := by
  have hprefix : (c.post.log.take count).take c.post.told <+: c.post.log.take c.post.told := by
    rw [List.take_take]
    apply List.take_prefix_take_left (Nat.min_le_left _ _)
  apply (h.seen e.id).mpr
  apply Record.ids_subset hprefix (List.mem_map_of_mem he)

/-- The entries that a snapshot tells for the first time have texts of the user only under
names that are new. -/
theorem unmet_untold {c : Correspondence} (h : c.Sound) (count : Nat) :
  c.session.Unmet (Record.entries (c.post.untold count))
  := by
  have hapart := h.apart
  rw [← List.take_append_drop c.post.told c.post.log, List.pairwise_append] at hapart
  obtain ⟨-, hnews, hacross⟩ := hapart
  have hother : ∀ m, .other m ∈ c.post.untold count → ∀ e ∈ m.entries,
      e.userText? = none := by
    intro m hm e he
    apply Message.userText?_of_mem_entries (h.news m ((untold_sublist c.post count).mem hm)) he
  have hown : ∀ r ∈ c.post.untold count, ∀ e ∈ r.message.entries,
      e.userText?.isSome → r.send?.isSome := by
    intro r hr e he htext
    cases r with
    | own text place id index createdAt => rfl
    | other m =>
      rw [hother m hr e he] at htext
      exact htext
  constructor
  · intro e he htext hseen
    obtain ⟨r, hr, her⟩ := List.mem_flatMap.mp he
    obtain ⟨before, hbefore, hid⟩ := List.mem_map.mp ((h.seen e.id).mp hseen)
    obtain ⟨told, htold, hbeforeTold⟩ := List.mem_flatMap.mp hbefore
    apply hacross told htold r ((untold_sublist c.post count).mem hr) (hown r hr e her htext)
      before hbeforeTold e her hid
  · rw [Record.entries, List.pairwise_flatMap]
    constructor
    · -- a record of a text has one entry, and no other record has texts of the user
      intro r hr
      cases r with
      | own text place id index createdAt =>
        have hsend : (text, place) ∈ c.post.news count := List.mem_filterMap.mpr ⟨_, hr, rfl⟩
        rw [Record.entries_own (readable_news h hsend).2]
        apply List.pairwise_singleton
      | other m =>
        rw [List.pairwise_iff_forall_sublist]
        intro e e' hsublist htext
        rw [hother m hr e' (hsublist.mem (by simp))] at htext
        exact (Bool.false_ne_true htext).elim
    · apply (hnews.sublist (untold_sublist c.post count)).imp_of_mem
      intro r r' _ hr' hapart e he e' he' htext
      apply hapart (hown r' hr' e' he' htext) e he e' he'

/-- The texts of the user that a snapshot tells for the first time settle the echoes. -/
theorem snapshot_effect {c : Correspondence} (h : c.Sound) (now : Nat) (head : Task) (count : Nat) :
  let settled := Session.settle c.session.echoes ((c.post.news count).map Prod.fst)
  (c.apply (.snapshot now head count)).shown = c.shown ++ settled.2
    ∧ (c.apply (.snapshot now head count)).session.echoes = settled.1
  := by
  intro settled
  have hseen : ∀ e ∈ Record.entries ((c.post.log.take count).take c.post.told),
      e.id ∈ c.session.seen :=
    fun _ he => seen_of_told h he
  obtain ⟨hsame, hnone⟩ := Session.foldl_met_of_seen hseen
  have htrim : ∀ text ∈ userTexts (Record.entries (c.post.untold count)),
      Text.trim text = text := by
    intro text htext
    rw [userTexts_untold h] at htext
    obtain ⟨send, hsend, rfl⟩ := List.mem_map.mp htext
    apply (readable_news h hsend).1
  have hsettled := Session.settle_of_unmet (unmet_untold h count) htrim
  have hentries : Record.entries (c.post.log.take count)
      = Record.entries ((c.post.log.take count).take c.post.told)
        ++ Record.entries (c.post.untold count) := by
    rw [← Record.entries_append, Post.untold, List.take_append_drop]
  rw [userTexts_untold h] at hsettled
  constructor
  · rw [shown, apply, Session.conversation_handle, turn_fetched, userTexts_append, Session.gain,
      Record.entries_map_message, hentries, Session.ofFate_append, hsame, hnone, List.nil_append]
    exact congrArg (c.shown ++ ·.2) hsettled.symm
  · rw [apply, Session.echoes_handle, turn_fetched, Session.echoesAfter,
      Record.entries_map_message, hentries, List.foldl_append, hsame]
    exact (congrArg Prod.fst hsettled).symm

end Correspondence

end TaskConsole
