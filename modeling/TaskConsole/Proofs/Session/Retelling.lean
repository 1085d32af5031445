import TaskConsole.Proofs.Session.Binding
import TaskConsole.Proofs.Session.Retouch

/-!
# Snapshots that are told again

A snapshot is told again when the session has seen the ids of all its entries.  Such a
snapshot changes the head of the task only (`Session.apply_of_seen`), and nothing that a
session does later hangs on the head of its task, apart from the id
(`Session.SameApartFromHead.handle`).  A `Retelling` is a step of a run into which further
answers with such a snapshot are put; the run with them and the run without them go the
same way (`Session.retold_same_apart_from_head`).
-/

namespace TaskConsole.Session

/-! ### The head of the task -/

/-- A session with another head of its task. -/
def headed (s : Session) (task : Task) : Session := { s with task := task }

/-- Two sessions are the same apart from the head of their task, which has the same id. -/
structure SameApartFromHead (s s' : Session) : Prop where
  id : s'.task.id = s.task.id
  rest : s' = s.headed s'.task

theorem SameApartFromHead.refl (s : Session) :
  SameApartFromHead s s
  := ⟨rfl, rfl⟩

/-- A session with another head of the same task is the same apart from it. -/
theorem SameApartFromHead.headed {s : Session} {task : Task} (h : task.id = s.task.id) :
  SameApartFromHead s (s.headed task)
  := ⟨h, rfl⟩

theorem SameApartFromHead.trans {s s' s'' : Session}
    (h : SameApartFromHead s s') (h' : SameApartFromHead s' s'') :
  SameApartFromHead s s''
  := by
  use h'.id.trans h.id
  rw [h'.rest, h.rest]
  rfl

/-- To have another head is one way of being retouched. -/
theorem headed_eq_retouched (s : Session) (task : Task) :
  s.headed task = s.retouched { head := fun _ => task }
  := rfl

/-- The feed is laid out without the head of the task. -/
theorem feedView_headed (s : Session) (task : Task) :
  (s.headed task).feedView = (s.feedView.1, s.feedView.2.headed task)
  := by
  rw [headed_eq_retouched, headed_eq_retouched, feedView_retouched s _ rfl]

/-- A key does the same with another head of the same task. -/
theorem handleKey_headed
    {s : Session} {task : Task} (h : task.id = s.task.id) (now : Nat) (action : KeyAction) :
  (s.headed task).handleKey now action
    = ((s.handleKey now action).1.headed task, (s.handleKey now action).2)
  := by
  rw [headed_eq_retouched, headed_eq_retouched, handleKey_retouched s _ h rfl rfl]

/-- A notice is shown the same with another head of the same task. -/
theorem SameApartFromHead.notify {s : Session} {task : Task} (h : task.id = s.task.id) (n : Notice) :
  SameApartFromHead (s.notify n) ((s.headed task).notify n)
  := by
  obtain ⟨_, _, hnotify⟩ := s.exists_notify_eq n
  rw [headed_eq_retouched, notify_retouched]
  apply SameApartFromHead.headed
  rw [hnotify]
  exact h

/-- An outcome does the same with another head of the same task. -/
theorem handleOutcome_headed
    {s : Session} {task : Task} (h : task.id = s.task.id) (o : Outcome) :
  SameApartFromHead (s.handleOutcome o).1 ((s.headed task).handleOutcome o).1
    ∧ ((s.headed task).handleOutcome o).2 = (s.handleOutcome o).2
  := by
  have hid : (s.headed task).task.id = s.task.id := h
  cases o with
  | messageSent taskId text result =>
    simp only [handleOutcome, hid]
    split
    · cases result with
      | ok _ => exact ⟨.headed h, rfl⟩
      | error notice =>
        let s' := { s with waiting := false, echoes := s.echoes.erase text }
        have hid' : task.id = s'.task.id := h
        exact ⟨.notify hid' notice, rfl⟩
    · exact ⟨.headed h, rfl⟩
  | taskSuspended taskId result =>
    simp only [handleOutcome, hid]
    split
    · cases result with
      | ok _ => exact ⟨.headed h, rfl⟩
      | error notice => exact ⟨.notify h notice, rfl⟩
    · exact ⟨.headed h, rfl⟩
  | taskFetched taskId result =>
    simp only [handleOutcome, hid]
    split
    · cases result with
      | ok snapshot => exact ⟨.refl _, rfl⟩
      | error notice => exact ⟨.notify h notice, rfl⟩
    · exact ⟨.headed h, rfl⟩
  | modelFetched modelId result =>
    cases result with
    | ok info => exact ⟨.headed h, rfl⟩
    | error notice => exact ⟨.notify h notice, rfl⟩
  | agentsListed result =>
    cases result with
    | ok agents => exact ⟨.headed h, rfl⟩
    | error notice => exact ⟨.notify h notice, rfl⟩

/-- No key changes the task. -/
theorem task_handleKey (s : Session) (now : Nat) (action : KeyAction) :
  (s.handleKey now action).1.task = s.task
  := by
  have hquiet : (s.turn (.key action)).tasks = [] := by
    cases action with
    | submit =>
      rw [turn]
      split
      · rfl
      · rfl
    | _ => rfl
  have htask := s.task_handle now (.key action)
  rw [hquiet] at htask
  exact htask

/-- Sessions that are the same apart from the head of their task stay so at every event,
which calls for the same commands in both. -/
theorem SameApartFromHead.handle
    {s s' : Session} (h : SameApartFromHead s s') (now : Nat) (e : Event) :
  SameApartFromHead (s.handle now e).1 (s'.handle now e).1
    ∧ (s'.handle now e).2 = (s.handle now e).2
  := by
  obtain ⟨hid, hrest⟩ := h
  rw [hrest]
  cases e with
  | key action =>
    rw [Session.handle, Session.handle, handleKey_headed hid]
    constructor
    · apply SameApartFromHead.headed
      rw [task_handleKey]
      exact hid
    · rfl
  | resize width height => exact ⟨.headed hid, rfl⟩
  | serverTask taskId =>
    use .headed hid
    exact congrArg (fun id => if taskId = id then [Command.fetchTask taskId] else []) hid
  | outcome o => apply handleOutcome_headed hid
  | tick => exact ⟨.headed hid, rfl⟩

/-! ### Snapshots that have been seen -/

/-- A snapshot all of whose entries have been seen changes the head of the task only. -/
theorem apply_of_seen {s : Session} {snapshot : Snapshot}
    (h : ∀ e ∈ snapshot.entries, e.id ∈ s.seen) :
  s.apply snapshot = s.headed snapshot.task
  := by
  have hseen : ∀ e ∈ snapshot.entries, e.id ∈ (s.headed snapshot.task).seen := h
  have hreconcile : s.apply snapshot = (s.headed snapshot.task).reconcile snapshot.entries := rfl
  rw [hreconcile, reconcile, foldl_meet_of_seen hseen]
  rfl

/-- The answer with a snapshot all of whose entries have been seen leaves the session the
same apart from the head of its task, and calls for nothing, if the session does not take
it or the snapshot is one of its task. -/
theorem handle_of_seen
    {s : Session} {snapshot : Snapshot} (h : ∀ e ∈ snapshot.entries, e.id ∈ s.seen)
    {taskId : String} (hown : taskId = s.task.id → snapshot.task.id = taskId) (now : Nat) :
  SameApartFromHead s (s.handle now (.outcome (.taskFetched taskId (.ok snapshot)))).1
    ∧ (s.handle now (.outcome (.taskFetched taskId (.ok snapshot)))).2 = []
  := by
  rw [handle, handleOutcome]
  split
  · next htask =>
    rw [apply_of_seen h]
    exact ⟨.headed ((hown htask).trans htask), rfl⟩
  · exact ⟨.refl s, rfl⟩

/-! ### Runs with further answers -/

/-- A step of a run into which further answers with a snapshot are put. -/
inductive Retelling where
  /-- An event of the run. -/
  | event (e : Event)
  /-- A further answer with the snapshot, to a question for the task of an id. -/
  | again (taskId : String)

namespace Retelling

/-- The event that a step is when the further answers tell a snapshot. -/
def heard (told : Snapshot) : Retelling → Event
  | event e => e
  | again taskId => .outcome (.taskFetched taskId (.ok told))

/-- The event that a step is without the further answers. -/
def own? : Retelling → Option Event
  | event e => some e
  | again _ => none

/-- The events with the further answers among them. -/
def full (told : Snapshot) (steps : List (Nat × Retelling)) : List (Nat × Event) :=
  steps.map fun step => (step.1, step.2.heard told)

/-- The events without the further answers. -/
def bare (steps : List (Nat × Retelling)) : List (Nat × Event) :=
  steps.filterMap fun step => step.2.own?.map (step.1, ·)

/-- Each further answer that a session takes is about its task at that moment. -/
def Fits (told : Snapshot) : Session → List (Nat × Retelling) → Prop
  | _, [] => True
  | s, (now, event e) :: steps => Fits told (s.handle now e).1 steps
  | s, (_, again taskId) :: steps =>
    (taskId = s.task.id → told.task.id = taskId) ∧ Fits told s steps

end Retelling

/-- Further answers with a snapshot whose entries have all been seen keep a session the same
apart from the head of its task, and call for nothing. -/
theorem SameApartFromHead.retold
    {told : Snapshot} {s s' : Session} (h : SameApartFromHead s s')
    (hseen : ∀ e ∈ told.entries, e.id ∈ s.seen) {steps : List (Nat × Retelling)}
    (hfits : Retelling.Fits told s steps) :
  SameApartFromHead (s.run (Retelling.bare steps)) (s'.run (Retelling.full told steps))
    ∧ s'.along commands (Retelling.full told steps) = s.along commands (Retelling.bare steps)
  := by
  induction steps generalizing s s' with
  | nil => exact ⟨h, rfl⟩
  | cons step steps ih =>
    obtain ⟨now, step⟩ := step
    cases step with
    | event e =>
      obtain ⟨hnext, hcommands⟩ := h.handle now e
      have hseen' : ∀ entry ∈ told.entries, entry.id ∈ (s.handle now e).1.seen := by
        intro entry hentry
        rw [mem_seen_handle]
        apply List.mem_append_right _ (hseen entry hentry)
      obtain ⟨hrun, halong⟩ := ih hnext hseen' hfits
      exact ⟨hrun, congrArg₂ (· ++ ·) hcommands halong⟩
    | again taskId =>
      obtain ⟨hown, hrest⟩ := hfits
      have hseen' : ∀ entry ∈ told.entries, entry.id ∈ s'.seen := by
        rw [h.rest]
        exact hseen
      have hown' : taskId = s'.task.id → told.task.id = taskId := by
        rw [h.id]
        exact hown
      obtain ⟨hnext, hnone⟩ := handle_of_seen hseen' hown' now
      obtain ⟨hrun, halong⟩ := ih (h.trans hnext) hseen hrest
      exact ⟨hrun, (congrArg (· ++ _) hnone).trans halong⟩

section Start

variable (snapshot : Snapshot) (agent : Agent) (agents : List Agent) (theme : Theme)
  (viewport : Viewport)

/-- From a moment on at which the ids of all entries of a snapshot have been seen, any number
of further answers that tell it, each of them to another task's question or about the
session's own task, change nothing but the head of the task, of which the id stays: all
else in the session, what the feed shows, the commands that were called for and those that
any next event calls for are the same with the further answers and without them. -/
theorem retold_same_apart_from_head
    (before : List (Nat × Event)) (told : Snapshot) (steps : List (Nat × Retelling))
    (hseen : ∀ e ∈ told.entries,
      e.id ∈ ((start snapshot agent agents theme viewport).run before).seen)
    (hfits : Retelling.Fits told ((start snapshot agent agents theme viewport).run before) steps) :
  let opened := start snapshot agent agents theme viewport
  let alone := opened.run (before ++ Retelling.bare steps)
  let retold := opened.run (before ++ Retelling.full told steps)
  retold = { alone with task := retold.task } ∧ retold.task.id = alone.task.id
    ∧ retold.feedView.1 = alone.feedView.1
    ∧ opened.along commands (before ++ Retelling.full told steps)
      = opened.along commands (before ++ Retelling.bare steps)
    ∧ ∀ now e, (retold.handle now e).2 = (alone.handle now e).2
  := by
  intro opened alone retold
  obtain ⟨hrun, halong⟩ := (SameApartFromHead.refl (opened.run before)).retold hseen hfits
  rw [← run_append, ← run_append] at hrun
  use hrun.rest, hrun.id
  constructor
  · have hview := feedView_headed alone retold.task
    rw [← hrun.rest] at hview
    rw [hview]
  constructor
  · rw [along_append, along_append, halong]
  · intro now e
    apply (hrun.handle now e).2

end Start

/-- A snapshot with one entry that is told again before a text is sent, and after it, and in
answer to a question for another task, with another phase of the task: the text is sent and
waited for all the same. -/
theorem retold_same_around_submit :
  let messages : List Message := [⟨"m", .assistant, none, [⟨0, .text "hi"⟩]⟩]
  let told : Snapshot := { task := { id := "t", phase := .running }, messages := messages }
  let opened := start { task := { id := "t" }, messages := messages } ⟨"a", "A", "m"⟩ [] {}
    (.ofScreen 80 24)
  let steps : List (Nat × Retelling) := [(0, .again "t"), (0, .event (.key (.insert 'x'))),
    (0, .event (.key .submit)), (1, .again "t"), (2, .again "other")]
  let alone := opened.run (Retelling.bare steps)
  let retold := opened.run (Retelling.full told steps)
  told.entries.length = 1 ∧ (∀ e ∈ told.entries, e.id ∈ opened.seen)
    ∧ Retelling.Fits told opened steps
    ∧ (alone.task.phase, retold.task.phase) = (.awaiting, .running)
    ∧ (alone.echoes, alone.waiting, alone.conversation.length) = (["x"], true, 2)
    ∧ retold = { alone with task := retold.task }
    ∧ opened.along commands (Retelling.full told steps) = [.sendMessage "t" "x" "a"]
  := by
  intro messages told opened steps alone retold
  have hseen : ∀ e ∈ told.entries, e.id ∈ opened.seen := by decide
  have hfits : Retelling.Fits told opened steps := by
    refine ⟨fun _ => rfl, fun _ => rfl, fun hother => ?_, trivial⟩
    exact absurd hother (by decide)
  obtain ⟨hrest, -, -, hcommands, -⟩ :=
    retold_same_apart_from_head { task := { id := "t" }, messages := messages } ⟨"a", "A", "m"⟩ [] {}
      (.ofScreen 80 24) [] told steps hseen hfits
  have hsent : opened.along commands (Retelling.bare steps) = [.sendMessage "t" "x" "a"] := by
    decide
  exact ⟨by decide, hseen, hfits, by decide, by decide, hrest, hcommands.trans hsent⟩

end TaskConsole.Session
