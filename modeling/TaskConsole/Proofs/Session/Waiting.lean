import Mathlib.Data.List.Induction
import TaskConsole.Proofs.Session.Run

/-!
# Waiting for the agent

A session waits for the agent from the moment at which the user sends a text
(`Session.IsSubmission`) to the moment at which something new from the agent is told
(`Session.IsReply`) or a text turns out not to have been sent (`Session.IsRefusal`).  This is
what one event does to it (`Session.waiting_handle_iff`), so a session waits after a run
exactly if the last text that was sent in the run has met with neither since
(`Session.waiting_iff_unanswered`).
-/

namespace TaskConsole.Session

open Entry

/-! ### The events that matter -/

/-- Whether an event is the user who sends what was typed: the prompt has the keys, and it
holds more than blanks. -/
def IsSubmission (s : Session) (e : Event) : Prop :=
  e = .key .submit ∧ s.mode = .input ∧ (Text.trim s.prompt.text).isEmpty = false

/-- Whether an event is a snapshot of the session's own task with something new from the agent:
an entry of the agent whose id has not been seen before, neither by the session nor further in
front in the snapshot. -/
def IsReply (s : Session) (e : Event) : Prop :=
  ∃ snapshot, e = .outcome (.taskFetched s.task.id (.ok snapshot))
    ∧ ∃ entry ∈ fresh s.seen snapshot.entries, entry.isAgentContent = true

/-- Whether an event tells that a text for the session's own task could not be sent. -/
def IsRefusal (s : Session) (e : Event) : Prop :=
  ∃ text notice, e = .outcome (.messageSent s.task.id text (.error notice))

theorem isSubmission_iff {s : Session} {e : Event} :
  s.IsSubmission e ↔ ∃ text, s.turn e = .say text
  := by
  constructor
  · rintro ⟨rfl, h⟩
    exact ⟨_, if_pos h⟩
  · apply turn_cases (P := fun e t => (∃ text, t = .say text) → s.IsSubmission e)
    case say =>
      intro hmode htext _
      exact ⟨rfl, hmode, htext⟩
    all_goals simp

theorem isReply_iff {s : Session} {e : Event} :
  s.IsReply e ↔ ∃ snapshot, s.turn e = .take snapshot
    ∧ ∃ entry ∈ fresh s.seen snapshot.entries, entry.isAgentContent = true
  := by
  constructor
  · rintro ⟨snapshot, rfl, h⟩
    exact ⟨snapshot, if_pos rfl, h⟩
  · rintro ⟨snapshot, hturn, h⟩
    refine ⟨snapshot, ?_, h⟩
    revert hturn
    apply turn_cases (P := fun e t =>
      t = .take snapshot → e = .outcome (.taskFetched s.task.id (.ok snapshot)))
    case take =>
      intro told htold
      rw [Turn.take.inj htold]
    all_goals simp

theorem isRefusal_iff {s : Session} {e : Event} :
  s.IsRefusal e ↔ ∃ text notice, s.turn e = .refuse text notice
  := by
  constructor
  · rintro ⟨text, notice, rfl⟩
    exact ⟨text, notice, if_pos rfl⟩
  · apply turn_cases (P := fun e t => (∃ text notice, t = .refuse text notice) → s.IsRefusal e)
    case refuse =>
      intro text notice _
      exact ⟨text, notice, rfl⟩
    all_goals simp

/-! ### One event -/

/-- What entries of the service bring is new from the agent if a fresh one of them is. -/
theorem foldl_meet_snd (es : List Entry) (s : Session) (arrived : Bool) :
  (es.foldl meet (s, arrived)).2 = (arrived || (fresh s.seen es).any Entry.isAgentContent)
  := by
  induction es generalizing s arrived with
  | nil => exact (Bool.or_false _).symm
  | cons e es ih =>
    rw [List.foldl_cons]
    by_cases hseen : e.id ∈ s.seen
    · have hmeet : meet (s, arrived) e = (s, arrived) := if_pos hseen
      rw [hmeet, ih, fresh_cons_of_mem hseen]
    · have hmeet : meet (s, arrived) e
          = ({ s with seen := e.id :: s.seen }.receive e, arrived || e.isAgentContent) :=
        if_neg hseen
      -- whether the entry is an echo or not, it is seen
      have hnow : ({ s with seen := e.id :: s.seen }.receive e).seen = e.id :: s.seen := by
        rw [receive_eq]
        split
        · rfl
        · rfl
      rw [hmeet, ih, hnow, fresh_cons_of_not_mem hseen, List.any_cons, Bool.or_assoc]

/-- Something new from the agent ends the waiting. -/
theorem waiting_reconcile (s : Session) (es : List Entry) :
  (s.reconcile es).waiting = (s.waiting && !(fresh s.seen es).any Entry.isAgentContent)
  := by
  have hwaiting : (es.foldl meet (s, false)).1.waiting = s.waiting := by
    obtain ⟨_, _, _, _, h⟩ := exists_foldl_met_eq es s
    rw [foldl_meet_fst, h]
  have harrived := foldl_meet_snd es s false
  rw [Bool.false_or] at harrived
  rw [reconcile, ← harrived]
  revert hwaiting
  generalize es.foldl meet (s, false) = state
  intro hwaiting
  obtain ⟨s', arrived⟩ := state
  cases arrived with
  | true => exact (Bool.and_false _).symm
  | false => exact hwaiting.trans (Bool.and_true _).symm

/-- Whether a session waits for the agent after a turn. -/
def waitingAfter (s : Session) : Turn → Bool
  | .aside => s.waiting
  | .say _ => true
  | .refuse _ _ => false
  | .complain _ => s.waiting
  | .take snapshot =>
    s.waiting && !(fresh s.seen snapshot.entries).any Entry.isAgentContent

theorem waiting_handle (s : Session) (now : Nat) (e : Event) :
  (s.handle now e).1.waiting = s.waitingAfter (s.turn e)
  := by
  rw [(s.handle_alike now e).waiting]
  cases s.turn e with
  | aside => rfl
  | say text => rfl
  | refuse text notice =>
    obtain ⟨_, _, h⟩ := exists_notify_eq
      { s with waiting := false, echoes := s.echoes.erase text } notice
    rw [play, h]
    rfl
  | complain notice =>
    obtain ⟨_, _, h⟩ := s.exists_notify_eq notice
    rw [play, h]
    rfl
  | take snapshot => apply waiting_reconcile

/-- A session waits after an event if a text is sent at it, or if the session waited before
and the event is neither a reply nor a refusal. -/
theorem waiting_handle_iff (s : Session) (now : Nat) (e : Event) :
  (s.handle now e).1.waiting = true
    ↔ s.IsSubmission e ∨ s.waiting = true ∧ ¬ s.IsReply e ∧ ¬ s.IsRefusal e
  := by
  rw [waiting_handle, isSubmission_iff, isReply_iff, isRefusal_iff]
  cases s.turn e with
  | take snapshot => simp [waitingAfter]
  | _ => simp [waitingAfter]

/-! ### Runs -/

/-- Whether no event of a run is of a kind. -/
def Never (s : Session) (kind : Session → Event → Prop) (events : List (Nat × Event)) : Prop :=
  ∀ before now e, before ++ [(now, e)] <+: events → ¬ kind (s.run before) e

theorem never_nil (s : Session) (kind : Session → Event → Prop) :
  s.Never kind []
  := by
  intro before now e h
  cases List.append_ne_nil_of_right_ne_nil before (by simp) (List.prefix_nil.mp h)

theorem never_append_singleton {s : Session} {kind : Session → Event → Prop}
    {events : List (Nat × Event)} {now : Nat} {e : Event} :
  s.Never kind (events ++ [(now, e)]) ↔ s.Never kind events ∧ ¬ kind (s.run events) e
  := by
  constructor
  · intro h
    constructor
    · intro before now' e' hpart
      apply h before now' e' (hpart.trans (List.prefix_append _ _))
    · apply h events now e List.prefix_rfl
  · rintro ⟨hbefore, hlast⟩ before now' e' hpart
    rcases List.prefix_concat_iff.mp hpart with heq | hpart
    · obtain ⟨rfl, hsame⟩ := List.append_inj' heq rfl
      obtain ⟨rfl, rfl⟩ := Prod.mk.inj (List.singleton_inj.mp hsame)
      exact hlast
    · apply hbefore before now' e' hpart

/-- Whether the last text that is sent in a run meets with no reply and no refusal in the rest
of it. -/
def IsUnanswered (s : Session) (events : List (Nat × Event)) : Prop :=
  ∃ before now e after, events = before ++ (now, e) :: after
    ∧ (s.run before).IsSubmission e
    ∧ (s.run (before ++ [(now, e)])).Never IsSubmission after
    ∧ (s.run (before ++ [(now, e)])).Never IsReply after
    ∧ (s.run (before ++ [(now, e)])).Never IsRefusal after

theorem not_isUnanswered_nil (s : Session) :
  ¬ s.IsUnanswered []
  := by
  rintro ⟨before, now, e, after, h, -⟩
  cases List.append_ne_nil_of_right_ne_nil before (by simp) h.symm

/-- The last text of a run with a further event is the one sent at that event, or the last one
before it. -/
theorem isUnanswered_append_singleton {s : Session} {events : List (Nat × Event)} {now : Nat}
    {e : Event} :
  s.IsUnanswered (events ++ [(now, e)])
    ↔ (s.run events).IsSubmission e
      ∨ s.IsUnanswered events ∧ ¬ (s.run events).IsSubmission e ∧ ¬ (s.run events).IsReply e
        ∧ ¬ (s.run events).IsRefusal e
  := by
  have hrun : ∀ before x after, (s.run (before ++ [x])).run after
      = s.run (before ++ x :: after) := by
    intro before x after
    rw [← run_append, List.append_assoc, List.singleton_append]
  constructor
  · rintro ⟨before, now', e', after, heq, hsent, hrest⟩
    rcases List.eq_nil_or_concat after with rfl | ⟨after, last, rfl⟩
    · left
      obtain ⟨rfl, hsame⟩ := List.append_inj' heq rfl
      obtain ⟨rfl, rfl⟩ := Prod.mk.inj (List.singleton_inj.mp hsame)
      exact hsent
    · right
      rw [List.concat_eq_append, ← List.cons_append, ← List.append_assoc] at heq
      obtain ⟨rfl, hsame⟩ := List.append_inj' heq rfl
      rw [← List.singleton_inj.mp hsame, List.concat_eq_append] at hrest
      simp only [never_append_singleton, hrun] at hrest
      obtain ⟨⟨hsubmissions, hlast⟩, ⟨hreplies, hreply⟩, hrefusals, hrefusal⟩ := hrest
      exact ⟨⟨before, now', e', after, rfl, hsent, hsubmissions, hreplies, hrefusals⟩, hlast,
        hreply, hrefusal⟩
  · rintro (hsent | ⟨⟨before, now', e', after, rfl, hsent, hsubmissions, hreplies, hrefusals⟩,
      hlast, hreply, hrefusal⟩)
    · exact ⟨events, now, e, [], rfl, hsent, never_nil _ _, never_nil _ _, never_nil _ _⟩
    · refine ⟨before, now', e', after ++ [(now, e)], by simp, hsent, ?_⟩
      simp only [never_append_singleton, hrun]
      exact ⟨⟨hsubmissions, hlast⟩, ⟨hreplies, hreply⟩, hrefusals, hrefusal⟩

/-- A session that did not wait before a run waits after it exactly if the last text that was
sent is unanswered. -/
theorem waiting_run_iff {s : Session} (h : s.waiting = false) (events : List (Nat × Event)) :
  (s.run events).waiting = true ↔ s.IsUnanswered events
  := by
  induction events using List.reverseRecOn with
  | nil =>
    have hnot : (s.run []).waiting = false := h
    simp [hnot, not_isUnanswered_nil]
  | append_singleton events event ih =>
    obtain ⟨now, e⟩ := event
    have hstep : s.run (events ++ [(now, e)]) = ((s.run events).handle now e).1 := by
      rw [run_append]
      rfl
    rw [hstep, waiting_handle_iff, ih, isUnanswered_append_singleton]
    by_cases hsent : (s.run events).IsSubmission e
    · simp [hsent]
    · simp [hsent]

section Start

variable (snapshot : Snapshot) (agent : Agent) (agents : List Agent) (theme : Theme)
  (viewport : Viewport)

/-- No session starts waiting. -/
theorem waiting_start :
  (start snapshot agent agents theme viewport).waiting = false
  := by
  rw [start]
  apply waiting_reconcile

/-- In every reachable state a session waits for the agent exactly if a text was sent and,
since the last one was, there has been neither a snapshot of the session's own task with an
entry of the agent whose id had not been seen before, nor a refusal of a text for that task.
No other event ends the waiting, and none but sending begins it. -/
theorem waiting_iff_unanswered (events : List (Nat × Event)) :
  let opened := start snapshot agent agents theme viewport
  let s := opened.run events
  (s.waiting = true ↔ opened.IsUnanswered events)
    ∧ ∀ now e, (s.handle now e).1.waiting = true
      ↔ s.IsSubmission e ∨ s.waiting = true ∧ ¬ s.IsReply e ∧ ¬ s.IsRefusal e
  := by
  intro opened s
  constructor
  · apply waiting_run_iff
    apply waiting_start
  · intro now e
    apply waiting_handle_iff

/-- The echo of the text and a failure of another task leave a session waiting, a call of the
agent ends it, and the same call told again does not end the next one. -/
example :
  let opened := start { task := { id := "t" } } ⟨"a", "A", "m"⟩ [] {} (.ofScreen 80 24)
  let send : List (Nat × Event) := [(0, .key (.insert 'x')), (0, .key .submit)]
  let told (messages : List Message) : Nat × Event :=
    (1, .outcome (.taskFetched "t" (.ok { task := { id := "t" }, messages := messages })))
  let echo : Message := ⟨"m", .user, none, [⟨0, .text "x"⟩]⟩
  let reply : Message :=
    ⟨"n", .assistant, none, [⟨0, .call { id := "c", invocation := .read "f" }⟩]⟩
  let foreign : Event := .outcome (.messageSent "u" "x" (.error ⟨.generic, "down", []⟩))
  (opened.run (send ++ [told [echo], (1, foreign)])).waiting = true
    ∧ (opened.run (send ++ [told [echo], (1, foreign), told [echo, reply]])).waiting = false
    ∧ (opened.run (send ++ [told [echo, reply]] ++ send ++ [told [echo, reply]])).waiting = true
  := by decide

end Start

end TaskConsole.Session
