import TaskConsole.Proofs.Session.Reconciliation
import TaskConsole.Proofs.Session.Turn

/-!
# Runs of a session

`Session.run` handles timed events one after another, and `Session.along` collects what
a function tells about each of them.  One event adds what its turn gains to the
conversation (`Session.conversation_handle`), changes the task, the echoes and the ids
that were seen as its turn says, and sends what the turn says.
-/

namespace TaskConsole

/-- The text that a command sends, if it sends one. -/
def Command.sentText? : Command → Option String
  | sendMessage _ text _ => some text
  | _ => none

/-- The task that a command is about, if it is about one. -/
def Command.taskId? : Command → Option String
  | sendMessage taskId _ _ => some taskId
  | suspendTask taskId => some taskId
  | fetchTask taskId => some taskId
  | fetchModel _ => none
  | listAgents => none

namespace Session

/-! ### Runs -/

/-- The session after timed events. -/
def run (s : Session) (events : List (Nat × Event)) : Session :=
  events.foldl (fun s e => (s.handle e.1 e.2).1) s

/-- What a function tells about the events of a run, each with the session that handles
it, one after another. -/
def along {α : Type} (f : Session → Nat → Event → List α) (s : Session) :
    List (Nat × Event) → List α
  | [] => []
  | (now, e) :: events => f s now e ++ along f (s.handle now e).1 events

theorem run_append (s : Session) (events events' : List (Nat × Event)) :
  s.run (events ++ events') = (s.run events).run events'
  := List.foldl_append

/-- Along the second of two runs, it is the session after the first that handles events. -/
theorem along_append {α : Type} (f : Session → Nat → Event → List α) (s : Session)
    (events events' : List (Nat × Event)) :
  s.along f (events ++ events') = s.along f events ++ (s.run events).along f events'
  := by
  induction events generalizing s with
  | nil => rfl
  | cons event events ih =>
    obtain ⟨now, e⟩ := event
    rw [List.cons_append, along, along, ih, List.append_assoc]
    rfl

/-- What a function tells along a run, it tells about one of the events. -/
theorem exists_of_mem_along {α : Type} {f : Session → Nat → Event → List α} {s : Session}
    {events : List (Nat × Event)} {a : α} (h : a ∈ s.along f events) :
  ∃ before now e, before ++ [(now, e)] <+: events ∧ a ∈ f (s.run before) now e
  := by
  induction events generalizing s with
  | nil => exact (List.not_mem_nil h).elim
  | cons event events ih =>
    obtain ⟨now, e⟩ := event
    rcases List.mem_append.mp h with h | h
    · use [], now, e
      exact ⟨(List.prefix_cons_inj _).mpr List.nil_prefix, h⟩
    · obtain ⟨before, now', e', hprefix, hmem⟩ := ih h
      use (now, e) :: before, now', e'
      exact ⟨(List.prefix_cons_inj _).mpr hprefix, hmem⟩

/-! ### What a turn does -/

/-- The entries that the service sends in a turn. -/
def Turn.entries : Turn → List Entry
  | .take snapshot => snapshot.entries
  | _ => []

/-- What the user says in a turn. -/
def Turn.said : Turn → List String
  | .say text => [text]
  | _ => []

/-- The tasks that the service tells in a turn. -/
def Turn.tasks : Turn → List Task
  | .take snapshot => [snapshot.task]
  | _ => []

/-- The entry that shows a notice, unless it is silent. -/
def noticed (s : Session) (n : Notice) : List Entry :=
  if n.isSilent then [] else [{ id := s.countLocal.localId "error", kind := .notice n }]

/-- A notice is no text of the user. -/
theorem userTexts_noticed (s : Session) (n : Notice) :
  Entry.userTexts (s.noticed n) = []
  := by
  rw [noticed]
  split
  · rfl
  · rfl

/-- The entries that a turn adds to the conversation. -/
def gain (s : Session) : Turn → List Entry
  | .aside => []
  | .say text => [{ id := s.countLocal.localId "local", kind := .userText text }]
  | .refuse _ notice => s.noticed notice
  | .complain notice => s.noticed notice
  | .take snapshot => s.ofFate .added snapshot.entries

/-- The echoes after a turn. -/
def echoesAfter (s : Session) : Turn → List String
  | .aside => s.echoes
  | .say text => s.echoes ++ [text]
  | .refuse text _ => s.echoes.erase text
  | .complain _ => s.echoes
  | .take snapshot => (snapshot.entries.foldl met s).echoes

/-- A notice changes no more than the conversation and the count of local entries. -/
theorem exists_notify_eq (s : Session) (n : Notice) :
  ∃ localEntries generation, s.notify n = { s with
    conversation := s.conversation ++ s.noticed n
    localEntries := localEntries
    generation := generation }
  := by
  rw [notify, noticed]
  split
  · use s.localEntries, s.generation
    rw [List.append_nil]
  · exact ⟨_, _, rfl⟩

/-- What the conversation hangs on, after a turn. -/
theorem play_eq (s : Session) (t : Turn) :
  (s.play t).conversation = s.conversation ++ s.gain t
    ∧ (s.play t).task = t.tasks.getLastD s.task
    ∧ (s.play t).echoes = s.echoesAfter t
    ∧ ∀ id, id ∈ (s.play t).seen ↔ id ∈ t.entries.map Entry.id ++ s.seen
  := by
  cases t with
  | aside =>
    use (List.append_nil _).symm, rfl, rfl
    intro id
    rfl
  | say text =>
    use rfl, rfl, rfl
    intro id
    rfl
  | refuse text notice =>
    obtain ⟨_, _, h⟩ := exists_notify_eq
      { s with waiting := false, echoes := s.echoes.erase text } notice
    rw [play, h]
    use rfl, rfl, rfl
    intro id
    rfl
  | complain notice =>
    obtain ⟨_, _, h⟩ := s.exists_notify_eq notice
    rw [play, h]
    use rfl, rfl, rfl
    intro id
    rfl
  | take snapshot =>
    obtain ⟨_, h⟩ := s.exists_apply_eq snapshot
    rw [play, h]
    use conversation_foldl_met _ _, rfl, rfl
    apply mem_seen_foldl_met

/-- An event adds what its turn gains to the conversation. -/
theorem conversation_handle (s : Session) (now : Nat) (e : Event) :
  (s.handle now e).1.conversation = s.conversation ++ s.gain (s.turn e)
  := (s.handle_alike now e).conversation.trans (s.play_eq _).1

/-- An event makes the task the last one that its turn tells. -/
theorem task_handle (s : Session) (now : Nat) (e : Event) :
  (s.handle now e).1.task = (s.turn e).tasks.getLastD s.task
  := (s.handle_alike now e).task.trans (s.play_eq _).2.1

/-- An event leaves the echoes that its turn leaves. -/
theorem echoes_handle (s : Session) (now : Nat) (e : Event) :
  (s.handle now e).1.echoes = s.echoesAfter (s.turn e)
  := (s.handle_alike now e).echoes.trans (s.play_eq _).2.2.1

/-- After an event the ids of the entries that it brings have been seen too. -/
theorem mem_seen_handle (s : Session) (now : Nat) (e : Event) (id : String) :
  id ∈ (s.handle now e).1.seen ↔ id ∈ (s.turn e).entries.map Entry.id ++ s.seen
  := by
  rw [(s.handle_alike now e).seen]
  apply (s.play_eq _).2.2.2

/-! ### What an event calls for -/

/-- Turning to the next agent sends nothing, and is about no task. -/
theorem switchAgent_commands {s : Session} {c : Command} (h : c ∈ s.switchAgent.2) :
  c.sentText? = none ∧ c.taskId? = none
  := by
  rw [switchAgent] at h
  split at h
  · rw [List.mem_singleton.mp h]
    exact ⟨rfl, rfl⟩
  · simp only [modelCommands] at h
    split at h
    · exact (List.not_mem_nil h).elim
    · rw [List.mem_singleton.mp h]
      exact ⟨rfl, rfl⟩

/-- What a key calls for while the prompt has the keys: to suspend the task, to send
what was typed, or what turning to the next agent calls for. -/
theorem handleInput_commands (s : Session) (now : Nat) (action : KeyAction) :
  (s.handleInput now action).2 =
    match action with
    | .submit => s.submit.2
    | .escape => [.suspendTask s.task.id]
    | .nextAgent => s.switchAgent.2
    | _ => []
  := by
  cases action with
  | _ => rfl

/-- Submitting calls for sending what was typed, unless nothing was. -/
theorem submit_commands (s : Session) :
  s.submit.2 = if (Text.trim s.prompt.text).isEmpty = false
    then [.sendMessage s.task.id (Text.trim s.prompt.text) s.agent.id] else []
  := by
  rw [submit]
  cases (Text.trim s.prompt.text).isEmpty with
  | true => rfl
  | false => rfl

/-- What an event asks for: while the prompt has the keys, to send what was typed, to suspend
the task, or what turning to the next agent calls for; and to fetch the task when the service
tells that it has changed, or that it is suspended. -/
def asks (s : Session) : Event → List Command
  | .key .submit =>
    if s.mode = .input ∧ (Text.trim s.prompt.text).isEmpty = false
    then [.sendMessage s.task.id (Text.trim s.prompt.text) s.agent.id] else []
  | .key .escape => if s.mode = .input then [.suspendTask s.task.id] else []
  | .key .nextAgent => if s.mode = .input then s.switchAgent.2 else []
  | .serverTask taskId => if taskId = s.task.id then [.fetchTask s.task.id] else []
  | .outcome (.taskSuspended taskId (.ok _)) =>
    if taskId = s.task.id then [.fetchTask s.task.id] else []
  | _ => []

/-- A key calls for what it asks for. -/
theorem handleKey_commands (s : Session) (now : Nat) (action : KeyAction) :
  (s.handleKey now action).2 = s.asks (.key action)
  := by
  by_cases hignored : action = .ignored
  · rw [handleKey, if_pos hignored, hignored]
    rfl
  · cases hmode : s.mode with
    | help =>
      rw [handleKey_help hmode now hignored]
      cases action with
      | _ => simp [asks, hmode]
    | input =>
      rw [handleKey_input hmode now hignored, handleInput_commands]
      cases action with
      | submit =>
        have hprompt : (s.disarm .submit).prompt = s.prompt := rfl
        simp only [asks, hmode, true_and, submit_commands, hprompt]
        rfl
      | nextAgent =>
        have hagents : (s.disarm .nextAgent).agents = s.agents := rfl
        simp only [asks, hmode, if_true, switchAgent, hagents]
        split
        · rfl
        · rfl
      | escape => simp only [asks, hmode, if_true]; rfl
      | _ => rfl

/-- An outcome calls for what it asks for. -/
theorem handleOutcome_commands (s : Session) (o : Outcome) :
  (s.handleOutcome o).2 = s.asks (.outcome o)
  := by
  cases o with
  | taskSuspended taskId result =>
    cases result with
    | ok _ =>
      simp only [handleOutcome, asks]
      split
      · next htask => rw [htask]
      · rfl
    | error _ =>
      simp only [handleOutcome, asks]
      split
      · rfl
      · rfl
  | messageSent taskId text result =>
    simp only [handleOutcome, asks]
    split
    · cases result with
      | _ => rfl
    · rfl
  | taskFetched taskId result =>
    simp only [handleOutcome, asks]
    split
    · cases result with
      | _ => rfl
    · rfl
  | modelFetched modelId result =>
    cases result with
    | _ => rfl
  | agentsListed result =>
    cases result with
    | _ => rfl

/-- An event calls for what it asks for. -/
theorem handle_commands (s : Session) (now : Nat) (e : Event) :
  (s.handle now e).2 = s.asks e
  := by
  cases e with
  | key action => apply handleKey_commands
  | outcome o => apply handleOutcome_commands
  | serverTask taskId =>
    simp only [handle, asks]
    split
    · next htask => rw [htask]
    · rfl
  | resize width height => rfl
  | tick => rfl

/-- The commands that an event calls for are about the task of the session. -/
theorem handle_taskId
    {s : Session} {now : Nat} {e : Event} {c : Command} {id : String}
    (h : c ∈ (s.handle now e).2) (hid : c.taskId? = some id) :
  id = s.task.id
  := by
  have hone : ∀ {P : Prop} [Decidable P] {own : Command}, own.taskId? = some s.task.id →
      c ∈ (if P then [own] else []) → id = s.task.id := by
    intro P _ own hown hmem
    split at hmem
    · rw [List.mem_singleton.mp hmem, hown] at hid
      exact (Option.some.inj hid).symm
    · exact (List.not_mem_nil hmem).elim
  rw [handle_commands, asks.eq_def] at h
  split at h
  case h_1 => exact hone rfl h
  case h_2 => exact hone rfl h
  case h_3 =>
    split at h
    · rw [(switchAgent_commands h).2] at hid
      cases hid
    · exact (List.not_mem_nil h).elim
  case h_4 => exact hone rfl h
  case h_5 => exact hone rfl h
  case h_6 => exact (List.not_mem_nil h).elim

/-- An event sends what its turn says. -/
theorem handle_sent (s : Session) (now : Nat) (e : Event) :
  (s.handle now e).2.filterMap Command.sentText? = (s.turn e).said
  := by
  rw [handle_commands]
  cases e with
  | key action =>
    cases action with
    | submit =>
      rw [asks, turn]
      split
      · rfl
      · rfl
    | escape =>
      rw [asks]
      split
      · rfl
      · rfl
    | nextAgent =>
      rw [asks]
      split
      · rw [List.filterMap_eq_nil_iff.mpr fun c hc => (switchAgent_commands hc).1]
        rfl
      · rfl
    | _ => rfl
  | serverTask taskId =>
    rw [asks]
    split
    · rfl
    · rfl
  | outcome o =>
    have hsaid : (s.turn (.outcome o)).said = [] := by
      cases hturn : s.turn (.outcome o) with
      | say text => exact (s.turn_outcome_ne_say o text hturn).elim
      | _ => rfl
    rw [hsaid]
    cases o with
    | taskSuspended taskId result =>
      cases result with
      | ok _ =>
        rw [asks]
        split
        · rfl
        · rfl
      | error _ => rfl
    | _ => rfl
  | resize width height => rfl
  | tick => rfl

/-! ### The start -/

/-- Where no echo is waited for, no entry is taken for one. -/
theorem ofFate_echoed_eq_nil {s : Session} (h : s.echoes = []) (es : List Entry) :
  s.ofFate .echoed es = []
  := by
  have htexts := echoes_foldl_met es s
  rw [h] at htexts
  have hnone := List.map_eq_nil_iff.mp (List.append_eq_nil_iff.mp htexts.symm).1
  rw [List.eq_nil_iff_forall_not_mem]
  intro e he
  obtain ⟨text, hkind⟩ := exists_userText_of_echoed he
  have htext := List.filterMap_eq_nil_iff.mp hnone e he
  rw [Entry.userText?, hkind] at htext
  cases htext

/-- Where nothing was seen and no echo is waited for, the first occurrences in a snapshot are
added. -/
theorem conversation_apply_of_unseen {s : Session} (hseen : s.seen = [])
    (hechoes : s.echoes = []) (snapshot : Snapshot) :
  (s.apply snapshot).conversation = s.conversation ++ Entry.firsts snapshot.entries
  := by
  obtain ⟨_, h⟩ := s.exists_apply_eq snapshot
  have hadded := s.added_eq_fresh snapshot.entries
  rw [ofFate_echoed_eq_nil hechoes, List.filter_eq_self.mpr (by simp), hseen,
    Entry.fresh_nil_seen] at hadded
  rw [h, ← hadded]
  apply conversation_foldl_met

section Start

variable (snapshot : Snapshot) (agent : Agent) (agents : List Agent) (theme : Theme)
  (viewport : Viewport)

/-- A session starts with its task, the first occurrences in its snapshot, and no echoes. -/
theorem start_eq :
  (start snapshot agent agents theme viewport).task = snapshot.task
    ∧ (start snapshot agent agents theme viewport).conversation = Entry.firsts snapshot.entries
    ∧ (start snapshot agent agents theme viewport).echoes = []
    ∧ ∀ id, id ∈ (start snapshot agent agents theme viewport).seen
      ↔ id ∈ snapshot.entries.map Entry.id
  := by
  let bare : Session :=
    { theme := theme, task := snapshot.task, agent := agent, agents := agents,
      viewport := viewport }
  have hconversation := conversation_apply_of_unseen (s := bare) rfl rfl snapshot
  obtain ⟨_, h⟩ := bare.exists_apply_eq snapshot
  rw [start]
  constructor
  · rw [h]
  constructor
  · exact hconversation
  rw [h]
  constructor
  · have hechoes := echoes_foldl_met snapshot.entries bare
    apply (List.append_eq_nil_iff.mp hechoes.symm).2
  · intro id
    apply (mem_seen_foldl_met _ _ _).trans
    rw [show bare.seen = [] from rfl, List.append_nil]

end Start

end Session

end TaskConsole
