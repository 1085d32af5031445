import TaskConsole.Proofs.Session.Run

/-!
# Commands that fail

A service may fail any command (`Command.FailsOn`).  Carrying such a command out reports the
failure once, and the outcome has the identity of the command
(`Command.execute_of_failsOn`).  A session that is told the outcome shows one notice, unless
the request was given up, and stays as it was otherwise; only of a text that was not sent it
gives up the echo and the waiting (`Session.handle_refused`).  Both together say that every
failure comes to the surface exactly once (`Session.failure_surfaces_once`).
-/

namespace TaskConsole

/-! ### Carrying out a command -/

namespace Command

/-- The outcome that tells by a notice that a command failed; it has the identity of the
command. -/
def refused (notice : Notice) : Command → Outcome
  | sendMessage taskId text _ => .messageSent taskId text (.error notice)
  | suspendTask taskId => .taskSuspended taskId (.error notice)
  | fetchTask taskId => .taskFetched taskId (.error notice)
  | fetchModel modelId => .modelFetched modelId (.error notice)
  | listAgents => .agentsListed (.error notice)

section Monad

variable {m : Type → Type} [Monad m]

/-- A service fails a command when it attempts something in answer to it, and then answers
with the failure. -/
def FailsOn (service : Service m) (attempt : m Unit) (f : Failure) : Command → Prop
  | sendMessage taskId text agentId =>
    service.createMessage taskId text agentId = do attempt; return .error f
  | suspendTask taskId => service.suspendTask taskId = do attempt; return .error f
  | fetchTask taskId => service.getTask taskId = do attempt; return .error f
  | fetchModel modelId => service.getModel modelId = do attempt; return .error f
  | listAgents => service.listAgents = do attempt; return .error f

/-- A command that fails is attempted, its failure is reported, and its outcome tells it. -/
theorem execute_of_failsOn [LawfulMonad m]
    {service : Service m} {attempt : m Unit} {f : Failure} {c : Command}
    (h : c.FailsOn service attempt f) (report : Failure → m Unit) :
  c.execute service report = do
    attempt
    report f
    return c.refused f.notice
  := by
  cases c with
  | _ =>
    rw [FailsOn] at h
    simp only [execute, h, bind_assoc, pure_bind, tell]
    rfl

end Monad

end Command

/-! ### What the user is told -/

/-- A notice of a failure never says nothing. -/
theorem Failure.isBlankText_message (f : Failure) :
  Text.isBlankText f.notice.message = false
  := by
  simp only [notice]
  split
  · decide
  · next h => exact Bool.eq_false_iff.mpr h

namespace Session

/-- A session that gives up the echo of a text that a command sends, and the waiting for an
answer to it; of the other commands there is nothing to give up. -/
def giveUp (s : Session) (c : Command) : Session :=
  { s with
    waiting := c.sentText?.elim s.waiting fun _ => false
    echoes := c.sentText?.elim s.echoes s.echoes.erase }

/-- A session that is told that one of its commands failed gives up what hangs on the command,
shows the notice and calls for nothing. -/
theorem handle_refused
    {s : Session} {c : Command} (hown : ∀ id, c.taskId? = some id → id = s.task.id)
    (now : Nat) (notice : Notice) :
  s.handle now (.outcome (c.refused notice)) = ((s.giveUp c).notify notice, [])
  := by
  cases c with
  | sendMessage taskId text agentId => exact if_pos (hown taskId rfl)
  | suspendTask taskId => exact if_pos (hown taskId rfl)
  | fetchTask taskId => exact if_pos (hown taskId rfl)
  | fetchModel modelId => rfl
  | listAgents => rfl

/-- A command that the service fails, for whatever reason, is reported once, and its outcome
has its identity.  The session that called for it, in whatever state it is when it is told,
calls for nothing more; its conversation gets one notice at the end that says something,
unless the request was given up, and then it stays the same.  If a text could not be sent, it
is no longer waited for, and the first echo equal to it is forgotten; all else in the session,
the numbers of its entries apart, stays as it was. -/
theorem failure_surfaces_once
    {m : Type → Type} [Monad m] [LawfulMonad m] {service : Service m} {attempt : m Unit}
    {f : Failure} {c : Command} (hfails : c.FailsOn service attempt f)
    (report : Failure → m Unit) {s : Session}
    (hown : ∀ id, c.taskId? = some id → id = s.task.id) (now : Nat) :
  let o := c.refused f.notice
  let s' := (s.handle now (.outcome o)).1
  (c.execute service report = do attempt; report f; return o)
    ∧ (s.handle now (.outcome o)).2 = []
    ∧ s'.conversation = s.conversation ++
      (if f.category = .cancelled then []
        else [{ id := s.countLocal.localId "error", kind := .notice f.notice }])
    ∧ Text.isBlankText f.notice.message = false
    ∧ s'.waiting = c.sentText?.elim s.waiting (fun _ => false)
    ∧ s'.echoes = c.sentText?.elim s.echoes s.echoes.erase
    ∧ s' = { s with
        conversation := s'.conversation, localEntries := s'.localEntries
        generation := s'.generation, waiting := s'.waiting, echoes := s'.echoes }
  := by
  intro o s'
  have hhandle := handle_refused hown now f.notice
  have hs' : s' = (s.giveUp c).notify f.notice := congrArg Prod.fst hhandle
  obtain ⟨localEntries, generation, hnotify⟩ := (s.giveUp c).exists_notify_eq f.notice
  have hsilent : f.notice.isSilent = decide (f.category = .cancelled) := rfl
  rw [hs', hnotify]
  use Command.execute_of_failsOn hfails report, congrArg Prod.snd hhandle
  constructor
  · simp only [noticed, hsilent, decide_eq_true_iff]
    rfl
  · exact ⟨f.isBlankText_message, rfl, rfl, rfl⟩

/-- Two texts are sent, and the first one fails with nothing to say: the failure is reported
once, the notice says that the request failed, and the echo of the second text stays. -/
theorem failure_surfaces_once_of_silent_service :
  let opened := start { task := { id := "t" } } ⟨"a", "A", "m"⟩ [] {} (.ofScreen 80 24)
  let s := opened.run [(0, .key (.insert 'x')), (1, .key .submit), (2, .key (.insert 'y')),
    (3, .key .submit)]
  let f : Failure := .transport " "
  let service : Service (StateM (List Failure)) := {
    listTasks := pure (.error .cancelled)
    createTask := fun _ => pure (.error .cancelled)
    getTask := fun _ => pure (.error .cancelled)
    createMessage := fun _ _ _ => pure (.error f)
    suspendTask := fun _ => pure (.error .cancelled)
    getModel := fun _ => pure (.error .cancelled)
    listAgents := pure (.error .cancelled) }
  let report (f : Failure) : StateM (List Failure) Unit := modify (· ++ [f])
  let c : Command := .sendMessage "t" "x" "a"
  let s' := (s.handle 4 (.outcome (c.refused f.notice))).1
  c.FailsOn service (pure ()) f ∧ (∀ id, c.taskId? = some id → id = s.task.id)
    ∧ s.echoes = ["x", "y"]
    ∧ ((c.execute service report).run []) = (c.refused f.notice, [f])
    ∧ s'.conversation = s.conversation ++
      [{ id := "error-3", kind := .notice ⟨.generic, "Request failed.", []⟩ }]
    ∧ s'.echoes = ["y"] ∧ s'.waiting = false
  := by
  intro opened s f service report c s'
  have hfails : c.FailsOn service (pure ()) f := rfl
  have hown : ∀ id, c.taskId? = some id → id = s.task.id := by
    intro id hid
    exact (Option.some.inj hid).symm.trans (by decide)
  obtain ⟨hexecute, -, hconversation, -, hwaiting, hechoes, -⟩ :=
    failure_surfaces_once hfails report hown 4
  have hnotice : f.notice = ⟨.generic, "Request failed.", []⟩ := by decide +kernel
  have hcategory : f.category ≠ .cancelled := by decide +kernel
  have hid : s.countLocal.localId "error" = "error-3" := by decide
  refine ⟨hfails, hown, by decide, ?_, hconversation.trans ?_, hechoes.trans ?_, hwaiting⟩
  · rw [hexecute]
    rfl
  · rw [if_neg hcategory, hid, hnotice]
  · decide

end Session

end TaskConsole
