import TaskConsole.Session.Step

/-!
# Turns of a conversation

Of all that an event does to a session, its `Turn` is what concerns the conversation:
something is said, a text was not sent, something else went wrong, or a snapshot
arrives.  `Session.play` does no more than a turn asks for, and `Session.handle` is
`Alike` to it: the task, the conversation, the ids that were seen, the echoes, the
count of local entries and the waiting come out the same.  What a key does to all the
rest is said by `Session.exists_handleKey_eq`.
-/

namespace TaskConsole.Session

/-- What an event means for the conversation. -/
inductive Turn where
  /-- The event concerns something else. -/
  | aside
  /-- The user says a text. -/
  | say (text : String)
  /-- A text of the user could not be sent. -/
  | refuse (text : String) (notice : Notice)
  /-- Something else went wrong. -/
  | complain (notice : Notice)
  /-- A snapshot of the task arrives. -/
  | take (snapshot : Snapshot)

/-- What an event means for the conversation of a session. -/
def turn (s : Session) : Event → Turn
  | .key .submit =>
    if s.mode = .input ∧ (Text.trim s.prompt.text).isEmpty = false
    then .say (Text.trim s.prompt.text) else .aside
  | .outcome (.messageSent taskId text (.error notice)) =>
    if taskId = s.task.id then .refuse text notice else .aside
  | .outcome (.taskSuspended taskId (.error notice)) =>
    if taskId = s.task.id then .complain notice else .aside
  | .outcome (.taskFetched taskId (.error notice)) =>
    if taskId = s.task.id then .complain notice else .aside
  | .outcome (.taskFetched taskId (.ok snapshot)) =>
    if taskId = s.task.id then .take snapshot else .aside
  | .outcome (.modelFetched _ (.error notice)) => .complain notice
  | .outcome (.agentsListed (.error notice)) => .complain notice
  | _ => .aside

/-- All that an event may mean: the user says what was typed, a text for the session's own
task could not be sent, something else went wrong, a snapshot of the session's own task
arrives, or nothing for the conversation. -/
theorem turn_cases {P : Event → Turn → Prop} {s : Session}
    (aside : ∀ e, P e .aside)
    (say : s.mode = .input → (Text.trim s.prompt.text).isEmpty = false →
      P (.key .submit) (.say (Text.trim s.prompt.text)))
    (refuse : ∀ text notice,
      P (.outcome (.messageSent s.task.id text (.error notice))) (.refuse text notice))
    (complain : ∀ e notice, P e (.complain notice))
    (take : ∀ snapshot,
      P (.outcome (.taskFetched s.task.id (.ok snapshot))) (.take snapshot)) (e : Event) :
  P e (s.turn e)
  := by
  cases e with
  | key action =>
    cases action with
    | submit =>
      rw [turn]
      split
      · next h => exact say h.1 h.2
      · apply aside
    | _ => apply aside
  | outcome o =>
    cases o with
    | messageSent taskId text result =>
      cases result with
      | ok _ => apply aside
      | error notice =>
        rw [turn]
        split
        · next h =>
          rw [h]
          apply refuse
        · apply aside
    | taskSuspended taskId result =>
      cases result with
      | ok _ => apply aside
      | error notice =>
        rw [turn]
        split
        · apply complain
        · apply aside
    | taskFetched taskId result =>
      cases result with
      | ok snapshot =>
        rw [turn]
        split
        · next h =>
          rw [h]
          apply take
        · apply aside
      | error notice =>
        rw [turn]
        split
        · apply complain
        · apply aside
    | modelFetched modelId result =>
      cases result with
      | ok _ => apply aside
      | error notice => apply complain
    | agentsListed result =>
      cases result with
      | ok _ => apply aside
      | error notice => apply complain
  | _ => apply aside

/-- No outcome says anything. -/
theorem turn_outcome_ne_say (s : Session) (o : Outcome) (text : String) :
  s.turn (.outcome o) ≠ .say text
  := by
  have hsay : ∀ e, e = .outcome o → s.turn e ≠ .say text := by
    intro e
    apply turn_cases (P := fun e t => e = .outcome o → t ≠ .say text)
    all_goals simp
  apply hsay _ rfl

/-- What is said is what was typed, apart from blanks at its ends, and not empty. -/
theorem eq_of_turn_eq_say {s : Session} {e : Event} {text : String} (h : s.turn e = .say text) :
  text = Text.trim s.prompt.text ∧ text.isEmpty = false
  := by
  revert h
  apply turn_cases (P := fun _ t => t = .say text →
    text = Text.trim s.prompt.text ∧ text.isEmpty = false)
  case say =>
    intro _ htext h
    rw [← Turn.say.inj h]
    exact ⟨rfl, htext⟩
  all_goals simp

/-- Shows a text of the user, remembers it as an echo and waits for the agent. -/
def say (s : Session) (text : String) : Session :=
  { s.countLocal.append { id := s.countLocal.localId "local", kind := .userText text } with
    echoes := s.echoes ++ [text], waiting := true }

/-- What a turn does to a session. -/
def play (s : Session) : Turn → Session
  | .aside => s
  | .say text => s.say text
  | .refuse text notice => { s with waiting := false, echoes := s.echoes.erase text }.notify notice
  | .complain notice => s.notify notice
  | .take snapshot => s.apply snapshot

/-- Two sessions are alike when they agree in all that the conversation hangs on. -/
structure Alike (s s' : Session) : Prop where
  task : s.task = s'.task
  conversation : s.conversation = s'.conversation
  seen : s.seen = s'.seen
  echoes : s.echoes = s'.echoes
  localEntries : s.localEntries = s'.localEntries
  waiting : s.waiting = s'.waiting

theorem Alike.refl (s : Session) :
  Alike s s
  := ⟨rfl, rfl, rfl, rfl, rfl, rfl⟩

/-! ### Keys -/

/-- A session that forgets a first press of the key that clears or quits, unless that
key is pressed. -/
def disarm (s : Session) (action : KeyAction) : Session :=
  if action = .clearOrQuit then s else { s with armedAt := none }

theorem disarm_alike (s : Session) (action : KeyAction) :
  Alike (s.disarm action) s
  := by
  rw [disarm]
  split
  · apply Alike.refl
  · exact ⟨rfl, rfl, rfl, rfl, rfl, rfl⟩

theorem mode_disarm (s : Session) (action : KeyAction) :
  (s.disarm action).mode = s.mode
  := by
  rw [disarm]
  split
  · rfl
  · rfl

theorem prompt_disarm (s : Session) (action : KeyAction) :
  (s.disarm action).prompt = s.prompt
  := by
  rw [disarm]
  split
  · rfl
  · rfl

/-- In the help, a key closes it. -/
theorem handleKey_help
    {s : Session} (hmode : s.mode = .help) (now : Nat) {action : KeyAction}
    (h : action ≠ .ignored) :
  s.handleKey now action = ({ s.disarm action with mode := .input }, [])
  := by
  have hmode' := (s.mode_disarm action).trans hmode
  rw [disarm] at hmode' ⊢
  simp only [handleKey, if_neg h, hmode']

/-- While the prompt has the keys, a key that means something goes to the prompt. -/
theorem handleKey_input
    {s : Session} (hmode : s.mode = .input) (now : Nat) {action : KeyAction}
    (h : action ≠ .ignored) :
  s.handleKey now action = (s.disarm action).handleInput now action
  := by
  have hmode' := (s.mode_disarm action).trans hmode
  rw [disarm] at hmode' ⊢
  simp only [handleKey, if_neg h, hmode']

/-- What a key does to a session while the prompt has the keys, the prompt, the window and
the mode apart: it says what was typed, or turns to the next agent. -/
def enact (s : Session) : KeyAction → Session
  | .submit =>
    if (Text.trim s.prompt.text).isEmpty = false then s.say (Text.trim s.prompt.text) else s
  | .nextAgent => s.switchAgent.1
  | _ => s

/-- While the prompt has the keys, a key does what it enacts, and changes the prompt, the
window, the mode, the memory of a first press and whether the session goes on. -/
theorem exists_handleInput_eq (s : Session) (now : Nat) (action : KeyAction) :
  ∃ running mode prompt scroll armedAt layout,
    (s.handleInput now action).1 = { s.enact action with
      running := running, mode := mode, prompt := prompt, scroll := scroll
      armedAt := armedAt, layout := layout }
  := by
  have hscroll : ∀ lines, ∃ running mode prompt scroll armedAt layout,
      s.scrollUp lines = { s with
        running := running, mode := mode, prompt := prompt, scroll := scroll
        armedAt := armedAt, layout := layout } := by
    intro lines
    rw [scrollUp, feedView, layOut]
    cases s.keptLayout? with
    | some _ => exact ⟨_, _, _, _, _, _, rfl⟩
    | none => exact ⟨_, _, _, _, _, _, rfl⟩
  cases action with
  | clearOrQuit =>
    rw [handleInput, clearOrQuit]
    cases s.armedAt with
    | none => exact ⟨_, _, _, _, _, _, rfl⟩
    | some before =>
      simp only
      split
      · exact ⟨_, _, _, _, _, _, rfl⟩
      · exact ⟨_, _, _, _, _, _, rfl⟩
  | submit =>
    rw [handleInput, submit, enact]
    cases (Text.trim s.prompt.text).isEmpty with
    | true => exact ⟨_, _, _, _, _, _, rfl⟩
    | false => exact ⟨_, _, _, _, _, _, rfl⟩
  | pageUp => apply hscroll
  | moveUp => apply hscroll
  | _ => exact ⟨_, _, _, _, _, _, rfl⟩

/-- What a key enacts does not hang on the memory of a first press. -/
theorem exists_enact_disarm_eq (s : Session) (action : KeyAction) :
  ∃ armedAt, (s.disarm action).enact action = { s.enact action with armedAt := armedAt }
  := by
  cases action with
  | clearOrQuit => exact ⟨s.armedAt, rfl⟩
  | submit =>
    have hprompt : (s.disarm .submit).prompt = s.prompt := rfl
    refine ⟨none, ?_⟩
    rw [enact, enact, hprompt]
    split
    · rfl
    · rfl
  | nextAgent =>
    have hagents : (s.disarm .nextAgent).agents = s.agents := rfl
    refine ⟨none, ?_⟩
    rw [enact, enact, switchAgent, switchAgent, hagents]
    split
    · rfl
    · rfl
  | _ => exact ⟨none, rfl⟩

/-- A key does what it enacts while the prompt has the keys, and nothing while the help has
them, the prompt, the window, the mode, the memory of a first press and whether the session
goes on apart. -/
theorem exists_handleKey_eq (s : Session) (now : Nat) (action : KeyAction) :
  ∃ running mode prompt scroll armedAt layout,
    (s.handleKey now action).1 =
      { (if s.mode = .input then s.enact action else s) with
        running := running, mode := mode, prompt := prompt, scroll := scroll
        armedAt := armedAt, layout := layout }
  := by
  by_cases hignored : action = .ignored
  · have hnothing : s.enact .ignored = s := rfl
    rw [handleKey, if_pos hignored, hignored, hnothing, ite_self]
    exact ⟨_, _, _, _, _, _, rfl⟩
  · cases hmode : s.mode with
    | help =>
      rw [handleKey_help hmode now hignored, if_neg (by decide), disarm]
      split
      · exact ⟨_, _, _, _, _, _, rfl⟩
      · exact ⟨_, _, _, _, _, _, rfl⟩
    | input =>
      obtain ⟨_, _, _, _, _, _, hinput⟩ := exists_handleInput_eq (s.disarm action) now action
      obtain ⟨_, henact⟩ := s.exists_enact_disarm_eq action
      rw [handleKey_input hmode now hignored, hinput, henact, if_pos rfl]
      exact ⟨_, _, _, _, _, _, rfl⟩

/-- A key does what its turn asks for. -/
theorem handleKey_alike (s : Session) (now : Nat) (action : KeyAction) :
  Alike (s.handleKey now action).1 (s.play (s.turn (.key action)))
  := by
  obtain ⟨_, _, _, _, _, _, hkey⟩ := s.exists_handleKey_eq now action
  have hsame : Alike (s.handleKey now action).1
      (if s.mode = .input then s.enact action else s) := by
    rw [hkey]
    exact ⟨rfl, rfl, rfl, rfl, rfl, rfl⟩
  cases hmode : s.mode with
  | help =>
    rw [hmode, if_neg (by decide)] at hsame
    cases action with
    | submit =>
      rw [turn, hmode, if_neg (fun h => nomatch h.1)]
      exact hsame
    | _ => exact hsame
  | input =>
    rw [hmode, if_pos rfl] at hsame
    cases action with
    | submit =>
      rw [turn, hmode]
      rw [enact] at hsame
      by_cases hempty : (Text.trim s.prompt.text).isEmpty = false
      · rw [if_pos hempty] at hsame
        rw [if_pos ⟨rfl, hempty⟩]
        exact hsame
      · rw [if_neg hempty] at hsame
        rw [if_neg (fun h => hempty h.2)]
        exact hsame
    | nextAgent =>
      rw [enact, switchAgent] at hsame
      split at hsame
      · exact hsame
      · exact ⟨hsame.task, hsame.conversation, hsame.seen, hsame.echoes, hsame.localEntries,
          hsame.waiting⟩
    | _ => exact hsame

/-! ### Events -/

/-- All that an outcome may do: nothing, to give up a text that could not be sent, to complain,
to take a snapshot, to learn a model, or to enroll agents. -/
theorem handleOutcome_cases {P : Session → Prop} {s : Session}
    (aside : P s)
    (refuse : ∀ text notice,
      P ({ s with waiting := false, echoes := s.echoes.erase text }.notify notice))
    (complain : ∀ notice, P (s.notify notice))
    (take : ∀ snapshot, P (s.apply snapshot))
    (learn : ∀ model models, P { s with model := model, models := models })
    (enroll : ∀ agents, P { s with agents := agents }) (o : Outcome) :
  P (s.handleOutcome o).1
  := by
  cases o with
  | messageSent taskId text result =>
    simp only [handleOutcome]
    split
    · cases result with
      | ok _ => exact aside
      | error notice => apply refuse
    · exact aside
  | taskSuspended taskId result =>
    simp only [handleOutcome]
    split
    · cases result with
      | ok _ => exact aside
      | error notice => apply complain
    · exact aside
  | taskFetched taskId result =>
    simp only [handleOutcome]
    split
    · cases result with
      | ok snapshot => apply take
      | error notice => apply complain
    · exact aside
  | modelFetched modelId result =>
    cases result with
    | ok info => apply learn
    | error notice => apply complain
  | agentsListed result =>
    cases result with
    | ok agents => apply enroll
    | error notice => apply complain

/-- An outcome does what its turn asks for. -/
theorem handleOutcome_alike (s : Session) (o : Outcome) :
  Alike (s.handleOutcome o).1 (s.play (s.turn (.outcome o)))
  := by
  cases o with
  | messageSent taskId text result =>
    cases result <;> by_cases h : taskId = s.task.id <;>
      simp only [handleOutcome, turn, h, if_true, if_false] <;> apply Alike.refl
  | taskSuspended taskId result =>
    cases result <;> by_cases h : taskId = s.task.id <;>
      simp only [handleOutcome, turn, h, if_true, if_false] <;> apply Alike.refl
  | taskFetched taskId result =>
    cases result <;> by_cases h : taskId = s.task.id <;>
      simp only [handleOutcome, turn, h, if_true, if_false] <;> apply Alike.refl
  | modelFetched modelId result =>
    cases result with
    | ok info => exact ⟨rfl, rfl, rfl, rfl, rfl, rfl⟩
    | error notice => apply Alike.refl
  | agentsListed result =>
    cases result with
    | ok agents => exact ⟨rfl, rfl, rfl, rfl, rfl, rfl⟩
    | error notice => apply Alike.refl

/-- An event does what its turn asks for. -/
theorem handle_alike (s : Session) (now : Nat) (e : Event) :
  Alike (s.handle now e).1 (s.play (s.turn e))
  := by
  cases e with
  | key action => apply handleKey_alike
  | outcome o => apply handleOutcome_alike
  | resize width height => exact ⟨rfl, rfl, rfl, rfl, rfl, rfl⟩
  | serverTask taskId => apply Alike.refl
  | tick => exact ⟨rfl, rfl, rfl, rfl, rfl, rfl⟩

end TaskConsole.Session
