import TaskConsole.Proofs.Session.Typing

/-!
# What events go by without

Of the task of a session, events ask for no more than the id; no event asks whether the session
goes on; and none but scrolling up asks for the layout that it keeps.  So a session that is
retouched in these (`Session.retouched`) does the same at a key (`Session.handleKey_retouched`)
and at an outcome (`Session.handleOutcome_retouched`), where each says what the `Touch` has to
leave alone.
-/

namespace TaskConsole.Session

/-- What is made of the head of a task, of the mark whether a session goes on and of the layout
that it keeps. -/
structure Touch where
  head : Task → Task := id
  mark : Bool → Bool := id
  keep : Option Layout → Option Layout := id

/-- A session with what a touch makes of its own. -/
def retouched (s : Session) (t : Touch) : Session :=
  { s with task := t.head s.task, running := t.mark s.running, layout := t.keep s.layout }

section Retouched

variable (s : Session) (t : Touch)

theorem notify_retouched (n : Notice) :
  (s.retouched t).notify n = (s.notify n).retouched t
  := by
  rw [notify, notify]
  split
  · rfl
  · rfl

/-! ### Keys -/

theorem switchAgent_retouched :
  (s.retouched t).switchAgent = (s.switchAgent.1.retouched t, s.switchAgent.2)
  := by
  have hagents : (s.retouched t).agents = s.agents := rfl
  rw [switchAgent, switchAgent, hagents]
  split
  · rfl
  · rfl

/-- What was typed is sent to the task of the id. -/
theorem submit_retouched (hhead : (t.head s.task).id = s.task.id) :
  (s.retouched t).submit = (s.submit.1.retouched t, s.submit.2)
  := by
  have hprompt : (s.retouched t).prompt = s.prompt := rfl
  have hid : (s.retouched t).task.id = s.task.id := hhead
  apply Prod.ext
  · rw [submit, submit, hprompt]
    split
    · rfl
    · rfl
  · rw [submit_commands, submit_commands, hprompt, hid]
    rfl

/-- Quitting leaves the same mark if that of a session that is over stays. -/
theorem clearOrQuit_retouched (hmark : t.mark false = false) (now : Nat) :
  (s.retouched t).clearOrQuit now = (s.clearOrQuit now).retouched t
  := by
  have harmed : (s.retouched t).typing.isArmed now = s.typing.isArmed now := rfl
  rw [clearOrQuit_eq, clearOrQuit_eq, harmed]
  split
  · rw [quit, quit, retouched, retouched, hmark]
  · rfl

theorem disarm_retouched (action : KeyAction) :
  (s.retouched t).disarm action = (s.disarm action).retouched t
  := by
  rw [disarm, disarm]
  split
  · rfl
  · rfl

/-- The feed is laid out the same if the same layout is kept. -/
theorem feedView_retouched (hkeep : t.keep = id) :
  (s.retouched t).feedView = (s.feedView.1, s.feedView.2.retouched t)
  := by
  obtain ⟨head, mark, keep⟩ := t
  obtain rfl : keep = id := hkeep
  have hkept : (s.retouched ⟨head, mark, id⟩).keptLayout? = s.keptLayout? := rfl
  simp only [feedView, layOut, hkept]
  cases s.keptLayout? with
  | some lines => rfl
  | none => rfl

theorem scrollUp_retouched (hkeep : t.keep = id) (lines : Nat) :
  (s.retouched t).scrollUp lines = (s.scrollUp lines).retouched t
  := by
  rw [scrollUp, feedView_retouched s t hkeep, scrollUp]
  rfl

/-- While the prompt has the keys, a key does the same to a session that is retouched. -/
theorem handleInput_retouched (hhead : (t.head s.task).id = s.task.id)
    (hmark : t.mark false = false) (hkeep : t.keep = id) (now : Nat) (action : KeyAction) :
  (s.retouched t).handleInput now action
    = ((s.handleInput now action).1.retouched t, (s.handleInput now action).2)
  := by
  cases action with
  | clearOrQuit => rw [handleInput, handleInput, clearOrQuit_retouched s t hmark]
  | submit => rw [handleInput, handleInput, submit_retouched s t hhead]
  | escape =>
    rw [handleInput, handleInput, ← hhead]
    rfl
  | nextAgent => rw [handleInput, handleInput, switchAgent_retouched]
  | pageUp =>
    rw [handleInput, handleInput, scrollUp_retouched s t hkeep]
    rfl
  | moveUp => rw [handleInput, handleInput, scrollUp_retouched s t hkeep]
  | _ => rfl

/-- A key does the same to a session that is retouched. -/
theorem handleKey_retouched (hhead : (t.head s.task).id = s.task.id)
    (hmark : t.mark false = false) (hkeep : t.keep = id) (now : Nat) (action : KeyAction) :
  (s.retouched t).handleKey now action
    = ((s.handleKey now action).1.retouched t, (s.handleKey now action).2)
  := by
  by_cases hignored : action = .ignored
  · rw [handleKey, handleKey, if_pos hignored, if_pos hignored]
  · cases hmode : s.mode with
    | help =>
      have hmode' : (s.retouched t).mode = .help := hmode
      rw [handleKey_help hmode now hignored, handleKey_help hmode' now hignored,
        disarm_retouched]
      rfl
    | input =>
      have hmode' : (s.retouched t).mode = .input := hmode
      have hhead' : (t.head (s.disarm action).task).id = (s.disarm action).task.id := by
        rw [(s.disarm_alike action).task]
        exact hhead
      rw [handleKey_input hmode now hignored, handleKey_input hmode' now hignored,
        disarm_retouched, handleInput_retouched _ t hhead' hmark hkeep]

/-! ### Outcomes -/

theorem meet_retouched (arrived : Bool) (e : Entry) :
  meet (s.retouched t, arrived) e
    = ((meet (s, arrived) e).1.retouched t, (meet (s, arrived) e).2)
  := by
  have hseen : (s.retouched t).seen = s.seen := rfl
  have hecho : ∀ seen, isEcho { s.retouched t with seen := seen } e
      = isEcho { s with seen := seen } e := fun _ => rfl
  simp only [meet, hseen, receive_eq, hecho]
  split
  · rfl
  · split
    · rfl
    · rfl

/-- A snapshot brings a head of its own, which has to stay. -/
theorem apply_retouched (hhead : t.head = id) (snapshot : Snapshot) :
  (s.retouched t).apply snapshot = (s.apply snapshot).retouched t
  := by
  have hentries : ∀ (es : List Entry) (s : Session) (arrived : Bool),
      es.foldl meet (s.retouched t, arrived)
        = ((es.foldl meet (s, arrived)).1.retouched t, (es.foldl meet (s, arrived)).2) := by
    intro es
    induction es with
    | nil =>
      intro s arrived
      rfl
    | cons e es ih =>
      intro s arrived
      rw [List.foldl_cons, List.foldl_cons, meet_retouched, ih]
  have htask : { s.retouched t with task := snapshot.task }
      = retouched { s with task := snapshot.task } t := by
    rw [retouched, retouched, hhead]
    rfl
  simp only [apply, reconcile, htask, hentries]
  split
  · rfl
  · rfl

/-- An outcome does the same to a session that is retouched. -/
theorem handleOutcome_retouched (hhead : t.head = id) (o : Outcome) :
  (s.retouched t).handleOutcome o
    = ((s.handleOutcome o).1.retouched t, (s.handleOutcome o).2)
  := by
  obtain ⟨head, mark, keep⟩ := t
  obtain rfl : head = id := hhead
  have htask : (s.retouched ⟨id, mark, keep⟩).task = s.task := rfl
  cases o with
  | messageSent taskId text result =>
    simp only [handleOutcome, htask]
    split
    · cases result with
      | ok _ => rfl
      | error notice =>
        have hgiven := notify_retouched
          { s with waiting := false, echoes := s.echoes.erase text } ⟨id, mark, keep⟩
        exact Prod.ext (hgiven notice) rfl
    · rfl
  | taskSuspended taskId result =>
    simp only [handleOutcome, htask]
    split
    · cases result with
      | ok _ => rfl
      | error notice => exact Prod.ext (notify_retouched _ _ notice) rfl
    · rfl
  | taskFetched taskId result =>
    simp only [handleOutcome, htask]
    split
    · cases result with
      | ok snapshot => exact Prod.ext (apply_retouched _ _ rfl snapshot) rfl
      | error notice => exact Prod.ext (notify_retouched _ _ notice) rfl
    · rfl
  | modelFetched modelId result =>
    cases result with
    | ok info => rfl
    | error notice => exact Prod.ext (notify_retouched _ _ notice) rfl
  | agentsListed result =>
    cases result with
    | ok agents => rfl
    | error notice => exact Prod.ext (notify_retouched _ _ notice) rfl

end Retouched

end TaskConsole.Session
