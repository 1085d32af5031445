import TaskConsole.Console
import TaskConsole.Proofs.Session.Binding
import TaskConsole.Proofs.Session.Provenance
import TaskConsole.Proofs.Session.Retouch
import TaskConsole.Proofs.Session.Waiting

/-!
# After the end of a session

A console gives its session the whole of a batch (`Console.exists_handleAll_eq`), also if the
user quits in the midst of it.  A session that is over goes by the events behind as if it went
on (`Session.handle_quit`): it calls for the same commands, and all in it but the mark that it
is over comes out the same.  So nothing is done after quitting exactly if none of the events
that come then would stir a session that goes on (`Session.idle_after_quitting_iff`).
-/

namespace TaskConsole

namespace Session

/-! ### What does not hang on the end -/

section Quit

variable (s : Session)

/-- To be over is one way of being retouched. -/
theorem quit_eq_retouched :
  s.quit = s.retouched { mark := fun _ => false }
  := rfl

/-- An event does the same to a session that is over. -/
theorem handle_quit (now : Nat) (e : Event) :
  s.quit.handle now e = ((s.handle now e).1.quit, (s.handle now e).2)
  := by
  cases e with
  | key action =>
    rw [handle, handle, quit_eq_retouched, quit_eq_retouched, handleKey_retouched s _ rfl rfl rfl]
  | outcome o =>
    rw [handle, handle, quit_eq_retouched, quit_eq_retouched, handleOutcome_retouched s _ rfl]
  | _ => rfl

/-- Events do the same to a session that is over, one after another. -/
theorem run_quit (events : List (Nat × Event)) :
  s.quit.run events = (s.run events).quit
    ∧ s.quit.along commands events = s.along commands events
  := by
  induction events generalizing s with
  | nil => exact ⟨rfl, rfl⟩
  | cons event events ih =>
    obtain ⟨now, e⟩ := event
    obtain ⟨hrun, halong⟩ := ih (s.handle now e).1
    constructor
    · rw [run, run, List.foldl_cons, List.foldl_cons, handle_quit]
      exact hrun
    · rw [along, along, commands, commands, handle_quit, halong]

end Quit

/-! ### What stirs a session -/

/-- Whether an event stirs a session: it asks for commands, or something comes of it for the
conversation. -/
def Stirs (s : Session) (e : Event) : Prop := s.asks e ≠ [] ∨ s.gain (s.turn e) ≠ []

/-- A function tells nothing along a run exactly if it tells nothing about any event. -/
theorem along_eq_nil_iff {α : Type} {f : Session → Nat → Event → List α} {s : Session}
    {events : List (Nat × Event)} :
  s.along f events = []
    ↔ ∀ before now e, before ++ [(now, e)] <+: events → f (s.run before) now e = []
  := by
  constructor
  · rintro h before now e ⟨rest, rfl⟩
    rw [along_append, along_append, along, along, List.append_nil] at h
    exact (List.append_eq_nil_iff.mp (List.append_eq_nil_iff.mp h).1).2
  · intro h
    rw [List.eq_nil_iff_forall_not_mem]
    intro a ha
    obtain ⟨before, now, e, hpart, hmem⟩ := exists_of_mem_along ha
    rw [h before now e hpart] at hmem
    exact List.not_mem_nil hmem

/-- A run calls for nothing and leaves the conversation alone exactly if nothing in it stirs
the session. -/
theorem idle_run_iff (s : Session) (events : List (Nat × Event)) :
  s.along commands events = [] ∧ (s.run events).conversation = s.conversation
    ↔ s.Never Stirs events
  := by
  rw [conversation_run, List.append_right_eq_self, List.map_eq_nil_iff, along_eq_nil_iff,
    along_eq_nil_iff]
  simp only [commands, handle_commands, additions_eq, List.map_eq_nil_iff]
  constructor
  · rintro ⟨hcommands, hgain⟩ before now e hpart (hasks | hgains)
    · apply hasks (hcommands before now e hpart)
    · apply hgains (hgain before now e hpart)
  · intro hnever
    constructor
    · intro before now e hpart
      by_contra hasks
      apply hnever before now e hpart (.inl hasks)
    · intro before now e hpart
      by_contra hgains
      apply hnever before now e hpart (.inr hgains)

/-- After the end of a session, events do to it what they would do if it went on, and call for
the same commands.  They call for nothing, and leave the conversation alone, exactly if none
of them stirs the session. -/
theorem idle_after_quitting_iff {s : Session} (h : s.running = false)
    (rest : List (Nat × Event)) :
  let going : Session := { s with running := true }
  s.run rest = (going.run rest).quit
    ∧ s.along commands rest = going.along commands rest
    ∧ (s.along commands rest = [] ∧ (s.run rest).conversation = s.conversation
      ↔ s.Never Stirs rest)
  := by
  intro going
  have hover : going.quit = s := by
    rw [quit, ← h]
  obtain ⟨hrun, halong⟩ := going.run_quit rest
  rw [hover] at hrun halong
  exact ⟨hrun, halong, s.idle_run_iff rest⟩

/-- Of what the user does after the second press of the gesture that quits, the screen that
changes and a text that is typed stir nothing, but suspending the task does. -/
theorem idle_after_quitting_iff_of_second_press :
  let opened := start { task := { id := "t" } } ⟨"a", "A", "m"⟩ [] {} (.ofScreen 80 24)
  let now := 500 * millisecond
  let ended := opened.run [(0, .key .clearOrQuit), (now, .key .clearOrQuit)]
  let quiet : List (Nat × Event) := [(now, .resize 40 10), (now, .key (.insert 'x'))]
  let busy : List (Nat × Event) := quiet ++ [(now, .key .escape)]
  ended.running = false
    ∧ (ended.along commands quiet = [] ∧ (ended.run quiet).conversation = ended.conversation
      ↔ ended.Never Stirs quiet)
    ∧ ended.Never Stirs quiet
    ∧ ended.along commands busy = [.suspendTask "t"] ∧ ¬ ended.Never Stirs busy
  := by
  intro opened now ended quiet busy
  have hover : ended.running = false := by decide
  have hquiet := (idle_after_quitting_iff hover quiet).2.2
  have hbusy := (idle_after_quitting_iff hover busy).2.2
  have hsuspends : ended.along commands busy = [.suspendTask "t"] := by rfl
  use hover, hquiet, hquiet.mp ⟨by rfl, by rfl⟩, hsuspends
  intro hnever
  rw [hsuspends] at hbusy
  exact List.cons_ne_nil _ _ (hbusy.mpr hnever).1

/-- In the rest of a batch in which the user has quit, a text that is typed is sent,
a failure is shown, and the task is suspended. -/
theorem commands_after_quitting :
  let opened := start { task := { id := "t" } } ⟨"a", "A", "m"⟩ [] {} (.ofScreen 80 24)
  let now := 500 * millisecond
  let ended := opened.run [(0, .key .clearOrQuit), (now, .key .clearOrQuit)]
  let rest : List (Nat × Event) := [(now, .key (.insert 'x')), (now, .key .submit),
    (now, .outcome (.taskFetched "t" (.error ⟨.generic, "down", []⟩))), (now, .key .escape)]
  ended.running = false
    ∧ ended.along commands rest = [.sendMessage "t" "x" "a", .suspendTask "t"]
    ∧ ended.conversation.length = 0 ∧ (ended.run rest).conversation.length = 2
  := by decide

end Session

/-! ### Batches -/

namespace Console

variable {m : Type → Type} [Monad m]

/-- A session that a console shows takes an event, whether it is over or not. -/
theorem exists_handle_eq (b : Backing m) (now : Nat) {c : Console} {s : Session}
    (h : c.stage = .working s) (e : Event) :
  ∃ c' : Console, handle b now c e = pure (c', (s.handle now e).2)
    ∧ c'.stage = .working (s.handle now e).1
  := by
  have hresized : (c.resized e).stage = .working s := by
    cases e with
    | _ => exact h
  refine ⟨{ c.resized e with stage := .working (s.handle now e).1 }, ?_, rfl⟩
  rw [handle]
  simp only [hresized]

/-- The last event of a batch is given to what the events before it leave. -/
theorem handleAll_append_singleton [LawfulMonad m] (b : Backing m) (now : Nat) (c : Console)
    (events : List Event) (e : Event) :
  handleAll b now c (events ++ [e]) = do
    let before ← handleAll b now c events
    let last ← handle b now before.1 e
    return (last.1, before.2 ++ last.2)
  := by
  rw [handleAll, List.foldlM_append]
  simp only [List.foldlM_cons, List.foldlM_nil, bind_pure]
  rfl

/-- A session that a console shows takes the whole of a batch, whether it ends in it or not,
and what it calls for is carried out. -/
theorem exists_handleAll_eq [LawfulMonad m] (b : Backing m) (now : Nat) {c : Console}
    {s : Session} (h : c.stage = .working s) (events : List Event) :
  let batch := events.map fun e => (now, e)
  ∃ c' : Console, handleAll b now c events = pure (c', s.along Session.commands batch)
    ∧ c'.stage = .working (s.run batch)
  := by
  intro batch
  induction events using List.reverseRecOn with
  | nil => exact ⟨c, rfl, h⟩
  | append_singleton events e ih =>
    obtain ⟨before, hall, hstage⟩ := ih
    obtain ⟨last, hone, hend⟩ := exists_handle_eq b now hstage e
    have hbatch : batch = events.map (fun e => (now, e)) ++ [(now, e)] := List.map_append
    refine ⟨last, ?_, ?_⟩
    · simp only [handleAll_append_singleton, hall, hone, pure_bind, hbatch,
        Session.along_append, Session.along, Session.commands, List.append_nil]
    · rw [hbatch, Session.run_append]
      exact hend

end Console

end TaskConsole
