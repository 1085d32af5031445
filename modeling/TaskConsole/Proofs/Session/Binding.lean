import TaskConsole.Proofs.Session.Run

/-!
# The task of a session

A session is about the task that the service told last, and so is every command that it
calls for.  A run stays bound to one task (`Session.StaysBound`) exactly if every answer
that the session takes is about that task (`Session.staysBound_iff`): the session asks
for its task by id, and takes whatever task is told in the answer.
-/

namespace TaskConsole.Session

/-- The tasks that the service tells at an event, in answer to the session's own task. -/
def answers (s : Session) (_now : Nat) (e : Event) : List Task := (s.turn e).tasks

/-- The commands that an event calls for. -/
def commands (s : Session) (now : Nat) (e : Event) : List Command := (s.handle now e).2

/-- In all states of a run a session is about one task, and so are all commands, those of
the start included. -/
def StaysBound (s : Session) (taskId : String) (events : List (Nat × Event)) : Prop :=
  (∀ before, before <+: events → (s.run before).task.id = taskId)
    ∧ ∀ c ∈ s.startupCommands ++ s.along commands events,
      ∀ id, c.taskId? = some id → id = taskId

/-- A session is about the task that the service told last. -/
theorem task_run (s : Session) (events : List (Nat × Event)) :
  (s.run events).task = (s.along answers events).getLastD s.task
  := by
  induction events generalizing s with
  | nil => rfl
  | cons event events ih =>
    obtain ⟨now, e⟩ := event
    have hrun : s.run ((now, e) :: events) = (s.handle now e).1.run events := rfl
    rw [hrun, ih, along, task_handle, answers]
    cases s.turn e with
    | take snapshot => simp [Turn.tasks, List.getLastD_eq_getLast?, List.getLast?_cons]
    | _ => rfl

/-- An event keeps a session about a task exactly if what it tells is about that task. -/
theorem handle_task_id_iff {s : Session} {taskId : String} (h : s.task.id = taskId)
    (now : Nat) (e : Event) :
  (s.handle now e).1.task.id = taskId ↔ ∀ task ∈ s.answers now e, task.id = taskId
  := by
  rw [task_handle, answers]
  cases s.turn e with
  | take snapshot => simp [Turn.tasks]
  | _ => simp [Turn.tasks, h]

/-- A session is about a task throughout a run exactly if all that the run tells is about
that task. -/
theorem run_task_id_iff {s : Session} {taskId : String} (h : s.task.id = taskId)
    (events : List (Nat × Event)) :
  (∀ before, before <+: events → (s.run before).task.id = taskId)
    ↔ ∀ task ∈ s.along answers events, task.id = taskId
  := by
  induction events generalizing s with
  | nil =>
    constructor
    · intro _ task htask
      exact (List.not_mem_nil htask).elim
    · intro _ before hbefore
      rw [List.prefix_nil.mp hbefore]
      exact h
  | cons event events ih =>
    obtain ⟨now, e⟩ := event
    rw [along]
    constructor
    · intro hbound task htask
      have hnext : (s.handle now e).1.task.id = taskId :=
        hbound [(now, e)] ((List.prefix_cons_inj _).mpr List.nil_prefix)
      rcases List.mem_append.mp htask with htask | htask
      · apply (handle_task_id_iff h now e).mp hnext task htask
      · apply (ih hnext).mp _ task htask
        intro before hbefore
        apply hbound ((now, e) :: before) ((List.prefix_cons_inj _).mpr hbefore)
    · intro hanswers before hbefore
      have hnext : (s.handle now e).1.task.id = taskId := by
        apply (handle_task_id_iff h now e).mpr
        intro task htask
        apply hanswers task (List.mem_append_left _ htask)
      rcases List.prefix_cons_iff.mp hbefore with rfl | ⟨rest, rfl, hrest⟩
      · exact h
      · apply (ih hnext).mpr _ rest hrest
        intro task htask
        apply hanswers task (List.mem_append_right _ htask)

/-- The commands of the start are about the task of the session. -/
theorem startupCommands_taskId {s : Session} {c : Command} {id : String}
    (h : c ∈ s.startupCommands) (hid : c.taskId? = some id) :
  id = s.task.id
  := by
  rw [startupCommands] at h
  rcases List.mem_cons.mp h with rfl | h
  · exact (Option.some.inj hid).symm
  · rw [modelCommands] at h
    split at h
    · exact (List.not_mem_nil h).elim
    · rw [List.mem_singleton.mp h] at hid
      cases hid

/-- A session is about the task that the service told last, every command is about the
task of the session that calls for it, and a run stays bound to the task that it was
opened with exactly if every answer to the session's own task is about that one. -/
theorem staysBound_iff
    (snapshot : Snapshot) (agent : Agent) (agents : List Agent) (theme : Theme)
    (viewport : Viewport) (events : List (Nat × Event)) :
  let opened := start snapshot agent agents theme viewport
  let s := opened.run events
  s.task = (opened.along answers events).getLastD snapshot.task
    ∧ (∀ now e, ∀ c ∈ (s.handle now e).2, ∀ id, c.taskId? = some id → id = s.task.id)
    ∧ (opened.StaysBound snapshot.task.id events
      ↔ ∀ task ∈ opened.along answers events, task.id = snapshot.task.id)
  := by
  intro opened s
  have htask : opened.task = snapshot.task := (start_eq snapshot agent agents theme viewport).1
  have hid : opened.task.id = snapshot.task.id := by rw [htask]
  constructor
  · rw [← htask]
    apply task_run
  constructor
  · intro now e c hc id
    apply handle_taskId hc
  · constructor
    · intro hbound
      apply (run_task_id_iff hid events).mp hbound.1
    · intro hanswers
      have hbound := (run_task_id_iff hid events).mpr hanswers
      use hbound
      intro c hc id hcid
      rcases List.mem_append.mp hc with hc | hc
      · apply (startupCommands_taskId hc hcid).trans hid
      · obtain ⟨before, now, e, hprefix, hmem⟩ := exists_of_mem_along hc
        apply (handle_taskId hmem hcid).trans
        apply hbound before ((List.prefix_append _ _).trans hprefix)

/-- A session on a task, taking the answer to its own task that tells of another one, goes
over to that one: it is the other one that it suspends then. -/
theorem not_staysBound_of_foreign_answer :
  let opened := start { task := { id := "t1" } } ⟨"a", "A", "m"⟩ [] {} (.ofScreen 80 24)
  let answer : Event := .outcome (.taskFetched "t1" (.ok { task := { id := "t2" } }))
  (opened.run [(0, answer)]).task.id = "t2"
    ∧ ((opened.run [(0, answer)]).handle 0 (.key .escape)).2 = [.suspendTask "t2"]
    ∧ ¬ opened.StaysBound "t1" [(0, answer), (0, .key .escape)]
  := by
  intro opened answer
  have htask : (opened.run [(0, answer)]).task.id = "t2" := by rfl
  use htask
  constructor
  · rfl
  · intro hbound
    have hone := hbound.1 [(0, answer)] ((List.prefix_cons_inj _).mpr List.nil_prefix)
    rw [htask] at hone
    exact absurd hone (by decide)

end TaskConsole.Session
