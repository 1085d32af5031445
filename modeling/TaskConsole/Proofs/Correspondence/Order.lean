import Mathlib.Data.List.Perm.Subperm
import TaskConsole.Proofs.Correspondence.Effect

/-!
# The order of records

As long as everything that is sent gets through, the texts that the session has been told
settle those that were sent (`Correspondence.Settled`): each text that was sent is shown
once, and a text that is told is shown again unless it is the oldest one waited for.  So
nothing is shown twice exactly as long as the service records the texts in the order in
which they were sent (`Correspondence.shown_once_iff`).
-/

namespace TaskConsole.Correspondence

open Session

/-- No more texts are told than were sent. -/
theorem toldSends_length_le {c : Correspondence} (h : c.Sound) :
  c.post.toldSends.length ≤ c.post.sent.length
  := by
  have hsublist := toldSends_sublist c.post
  have hnodup : (c.post.toldSends.map Prod.snd).Nodup :=
    (List.nodup_append.mp h.once).1.sublist (hsublist.map _)
  have hrange : c.post.toldSends.map Prod.snd ⊆ List.range c.post.sent.length := by
    intro place hplace
    obtain ⟨send, hsend, rfl⟩ := List.mem_map.mp hplace
    rw [List.mem_range]
    apply List.snd_lt_of_mem_zipIdx (h.held send (hsublist.mem hsend))
  have hle := (hnodup.subperm hrange).length_le
  rw [List.length_map, List.length_range] at hle
  exact hle

/-- Where all that was sent is told, as many texts are told as were sent. -/
theorem length_le_toldSends {p : Post}
    (hall : ∀ place < p.sent.length, place ∈ p.toldSends.map Prod.snd) :
  p.sent.length ≤ p.toldSends.length
  := by
  have hrange : List.range p.sent.length ⊆ p.toldSends.map Prod.snd := by
    intro place hplace
    apply hall place (List.mem_range.mp hplace)
  have hle := (List.nodup_range.subperm hrange).length_le
  rw [List.length_map, List.length_range] at hle
  exact hle

/-- The texts that were told settle those that were sent: what is left is waited for, and
what is shown beyond the texts that were sent is shown again. -/
structure Settled (before : List String) (c : Correspondence) : Prop where
  echoes : c.session.echoes = (settle c.post.sent c.post.toldTexts).1
  shown : c.shown.Perm
    (before ++ c.post.sent ++ (settle c.post.sent c.post.toldTexts).2)

/-- What is said is shown once, and waited for. -/
theorem settled_event {before : List String} {c : Correspondence} (h : c.Sound)
    (hsettled : c.Settled before) (now : Nat) {e : Event}
    (hquiet : (c.session.turn e).IsQuiet) :
  (c.apply (.event now e)).Settled before
  := by
  obtain ⟨hshown, hechoes, hpost⟩ := event_effect now hquiet
  have htold : (c.apply (.event now e)).post.toldTexts = c.post.toldTexts := rfl
  have hlength : c.post.toldTexts.length ≤ c.post.sent.length := by
    rw [Post.toldTexts, List.length_map]
    apply toldSends_length_le h
  have hsettle := settle_append_awaited hlength (c.session.turn e).said
  constructor
  · rw [hechoes, htold, hpost, Post.send, hsettle, hsettled.echoes]
  · rw [hshown, htold, hpost, Post.send, hsettle, ← List.append_assoc]
    apply (hsettled.shown.append_right _).trans
    rw [List.append_assoc, List.append_assoc (before ++ _)]
    apply List.perm_append_comm.append_left

/-- What the service holds without telling it makes no difference. -/
theorem settled_hold {before : List String} {c : Correspondence} (h : c.Sound)
    (hsettled : c.Settled before) (r : Record) :
  (c.apply (.hold r)).Settled before
  := by
  have htold : (c.apply (.hold r)).post.toldTexts = c.post.toldTexts := by
    rw [Post.toldTexts, apply, toldSends_hold h]
    rfl
  constructor
  · rw [htold]
    exact hsettled.echoes
  · rw [htold]
    exact hsettled.shown

/-- What a snapshot tells settles what the earlier ones have left. -/
theorem settled_snapshot {before : List String} {c : Correspondence} (h : c.Sound)
    (hsettled : c.Settled before) (now : Nat) (head : Task) (count : Nat) :
  (c.apply (.snapshot now head count)).Settled before
  := by
  obtain ⟨hshown, hechoes⟩ := snapshot_effect h now head count
  have htold : (c.apply (.snapshot now head count)).post.toldTexts
      = c.post.toldTexts ++ (c.post.news count).map Prod.fst := by
    rw [Post.toldTexts, apply, toldSends_tell, List.map_append]
    rfl
  have hsent : (c.apply (.snapshot now head count)).post.sent = c.post.sent := rfl
  constructor
  · rw [hechoes, htold, hsent, settle_append, hsettled.echoes]
  · rw [hshown, htold, hsent, settle_append, ← hsettled.echoes, ← List.append_assoc]
    apply hsettled.shown.append_right

/-- A move keeps a correspondence settled, as long as everything gets through. -/
theorem settled_apply {before : List String} {c : Correspondence} (h : c.Sound)
    (hsettled : c.Settled before) {move : Move} (hallowed : c.Allowed move)
    (hthrough : (c.apply move).post.failed = []) :
  (c.apply move).Settled before
  := by
  cases move with
  | event now e => apply settled_event h hsettled now hallowed
  | hold r => apply settled_hold h hsettled r
  | refuse now text place notice => cases hthrough
  | snapshot now head count => apply settled_snapshot h hsettled now head count

/-- What has failed stays so. -/
theorem failed_suffix (c : Correspondence) (move : Move) :
  c.post.failed <:+ (c.apply move).post.failed
  := by
  cases move with
  | refuse now text place notice => apply List.suffix_cons
  | _ => apply List.suffix_refl

/-- A run in which everything gets through keeps a correspondence settled. -/
theorem settled_after {before : List String} {c : Correspondence} (h : c.Sound)
    (hsettled : c.Settled before) {moves : List Move} (hruns : c.Runs moves)
    (hthrough : (c.after moves).post.failed = []) :
  (c.after moves).Settled before
  := by
  apply after_induction (P := fun c => c.post.failed = [] → c.Settled before) h
    (fun _ => hsettled) _ hruns hthrough
  intro c move hsound hallowed hsettled hthrough
  have hbefore : c.post.failed = [] := by
    apply List.suffix_nil.mp
    rw [← hthrough]
    apply failed_suffix
  apply settled_apply hsound (hsettled hbefore) hallowed hthrough

section Opened

variable (snapshot : Snapshot) (agent : Agent) (agents : List Agent) (theme : Theme)
  (viewport : Viewport)

/-- What was opened is settled: nothing was sent and nothing is waited for. -/
theorem settled_opened :
  (opened snapshot agent agents theme viewport).Settled
    (opened snapshot agent agents theme viewport).shown
  := by
  have htold : (opened snapshot agent agents theme viewport).post.toldTexts = [] := by
    rw [Post.toldTexts, Post.toldSends, opened, ← List.map_take, Record.sends_map_other]
    rfl
  obtain ⟨-, -, hechoes, -⟩ := start_eq snapshot agent agents theme viewport
  constructor
  · rw [htold]
    exact hechoes
  · rw [htold]
    simp [opened, settle]

/-- As long as everything that is sent gets through, each text that was sent is shown once,
beside the texts that the session opened with and those that are shown again.  Nothing is
shown again exactly as long as the texts are told in the order in which they were sent, and
when all of them have been told, no echo is left exactly then. -/
theorem shown_once_iff {moves : List Move}
    (hruns : (opened snapshot agent agents theme viewport).Runs moves)
    (hthrough : ((opened snapshot agent agents theme viewport).after moves).post.failed = []) :
  let before := opened snapshot agent agents theme viewport
  let c := before.after moves
  let settled := settle c.post.sent c.post.toldTexts
  c.session.echoes = settled.1
    ∧ c.shown.Perm (before.shown ++ c.post.sent ++ settled.2)
    ∧ (c.shown.length = before.shown.length + c.post.sent.length
      ↔ c.post.toldTexts <+: c.post.sent)
    ∧ ((∀ place < c.post.sent.length, place ∈ c.post.toldSends.map Prod.snd)
      → (c.shown.length = before.shown.length + c.post.sent.length
          ↔ c.post.toldTexts = c.post.sent)
        ∧ (c.session.echoes = [] ↔ c.post.toldTexts = c.post.sent))
  := by
  intro before c settled
  have hsound : c.Sound := sound_after (sound_opened _ _ _ _ _) hruns
  obtain ⟨hechoes, hshown⟩ := settled_after (sound_opened _ _ _ _ _)
    (settled_opened snapshot agent agents theme viewport) hruns hthrough
  have hcount : c.shown.length = before.shown.length + c.post.sent.length
      ↔ c.post.toldTexts <+: c.post.sent := by
    rw [← settle_snd_eq_nil_iff, ← List.length_eq_zero_iff, hshown.length_eq,
      List.length_append, List.length_append]
    apply Nat.add_eq_left
  use hechoes, hshown, hcount
  intro hall
  have hlength : c.post.toldTexts.length = c.post.sent.length := by
    rw [Post.toldTexts, List.length_map]
    apply Nat.le_antisymm (toldSends_length_le hsound)
    apply length_le_toldSends hall
  have hprefix : c.post.toldTexts <+: c.post.sent ↔ c.post.toldTexts = c.post.sent := by
    constructor
    · intro h
      apply h.eq_of_length hlength
    · intro h
      exact h ▸ List.prefix_refl c.post.toldTexts
  constructor
  · rw [hcount, hprefix]
  · -- as many echoes are left as texts are shown again
    have hbalance := length_settle c.post.sent c.post.toldTexts
    rw [hlength, Nat.add_comm, Nat.add_right_inj] at hbalance
    rw [hechoes, ← List.length_eq_zero_iff, hbalance, List.length_eq_zero_iff,
      settle_snd_eq_nil_iff, hprefix]

end Opened

/-- Two texts that the service records in order, with a message of the agent between them,
are shown once. -/
theorem shown_once_of_recorded_in_order :
  let moves := typing 'a' ++ typing 'b'
    ++ [.hold (.own "a" 0 "m1" 0 none), .hold (.other ⟨"m2", .assistant, none, []⟩),
      .hold (.own "b" 1 "m3" 0 none), .snapshot 0 { id := "t" } 3]
  let c := blank.after moves
  blank.Runs moves ∧ c.post.failed = []
    ∧ c.shown.length = blank.shown.length + c.post.sent.length ∧ c.session.echoes = []
  := by
  intro moves c
  have hruns : blank.Runs moves := by decide
  have hthrough : c.post.failed = [] := rfl
  obtain ⟨-, -, -, hiff⟩ := shown_once_iff _ _ _ _ _ hruns hthrough
  have hall : ∀ place < c.post.sent.length, place ∈ c.post.toldSends.map Prod.snd := by decide
  have horder : c.post.toldTexts = c.post.sent := by decide
  obtain ⟨hcount, hechoes⟩ := hiff hall
  exact ⟨hruns, hthrough, hcount.mpr horder, hechoes.mpr horder⟩

/-- Two texts that the service records the other way round: the second one is shown twice,
and its echo is left for good. -/
theorem shown_again_of_recorded_out_of_order :
  let moves := typing 'a' ++ typing 'b'
    ++ [.hold (.own "b" 1 "m1" 0 none), .hold (.own "a" 0 "m2" 0 none),
      .snapshot 0 { id := "t" } 2]
  let c := blank.after moves
  blank.Runs moves ∧ c.post.failed = [] ∧ c.post.sent = ["a", "b"]
    ∧ (∀ place < c.post.sent.length, place ∈ c.post.toldSends.map Prod.snd)
    ∧ c.shown = ["a", "b", "b"] ∧ c.session.echoes = ["b"]
  := by
  decide

end TaskConsole.Correspondence
