import TaskConsole.Proofs.Session.Provenance

/-!
# Typing

The `Typing` of a session is what the keys of the user decide: the prompt, whether the prompt
or the help has the keys, the memory of a first press of the key that clears or quits, and
whether the session goes on.  What a key does to it hangs on nothing else
(`Typing.press`), and no other event does anything to it (`Session.typing_handle`).  So the
service and the clock never get in the way of the user who types: two runs in which the same
keys are pressed at the same times look the same after each key, and send the same texts
(`Session.keystrokes_eq_of_same_keys`).
-/

namespace TaskConsole

/-- The key that an event is, if it is one. -/
def Event.key? : Event → Option KeyAction
  | .key action => some action
  | _ => none

/-- What the keys of the user decide about a session. -/
structure Typing where
  prompt : Prompt := {}
  mode : Mode := .input
  armedAt : Option Nat := none
  running : Bool := true
deriving DecidableEq

/-- What a key makes of the prompt, while the prompt has the keys, apart from the key that
clears or quits. -/
def Prompt.edited (p : Prompt) : KeyAction → Prompt
  | .submit => if (Text.trim p.text).isEmpty then p else {}
  | .home => p.home
  | .toEnd => p.toEnd
  | .cursorLeft => p.left
  | .cursorRight => p.right
  | .backspace => p.backspace
  | .delete => p.delete
  | .insert c => p.insert c
  | _ => p

namespace Typing

/-- Whether a first press of the key that clears or quits is remembered that is recent enough
for a press at a time to quit. -/
def isArmed (t : Typing) (now : Nat) : Bool :=
  t.armedAt.any fun before => now < before + Session.doublePressWindow

/-- What the key that clears or quits does, while the prompt has the keys. -/
def clearOrQuit (t : Typing) (now : Nat) : Typing :=
  if t.isArmed now then { t with running := false }
  else { t with prompt := {}, armedAt := some now }

/-- What a key does. -/
def press (t : Typing) (now : Nat) (action : KeyAction) : Typing :=
  if action = .ignored then t
  else match t.mode with
    | .help =>
      { t with mode := .input, armedAt := if action = .clearOrQuit then t.armedAt else none }
    | .input =>
      if action = .clearOrQuit then t.clearOrQuit now
      else { t with
        prompt := t.prompt.edited action
        mode := if action = .help then .help else .input
        armedAt := none }

/-- The text that a key sends, if it sends one. -/
def sent (t : Typing) (action : KeyAction) : List String :=
  if action = .submit ∧ t.mode = .input ∧ (Text.trim t.prompt.text).isEmpty = false
  then [Text.trim t.prompt.text] else []

/-- What keys leave the user with, one after another: the typing after each of them, and the
texts that it sent. -/
def typed (t : Typing) : List (Nat × KeyAction) → List (Typing × List String)
  | [] => []
  | (now, action) :: keys => (t.press now action, t.sent action) :: (t.press now action).typed keys

end Typing

namespace Session

/-- What the keys of the user decide about a session. -/
def typing (s : Session) : Typing := ⟨s.prompt, s.mode, s.armedAt, s.running⟩

/-! ### Keys -/

theorem typing_scrollUp (s : Session) (lines : Nat) :
  (s.scrollUp lines).typing = s.typing
  := by
  rw [scrollUp, feedView, layOut]
  cases s.keptLayout? with
  | some _ => rfl
  | none => rfl

theorem typing_switchAgent (s : Session) :
  s.switchAgent.1.typing = s.typing
  := by
  rw [switchAgent]
  split
  · rfl
  · rfl

theorem typing_submit (s : Session) :
  s.submit.1.typing = { s.typing with prompt := s.prompt.edited .submit }
  := by
  rw [submit, Prompt.edited]
  cases (Text.trim s.prompt.text).isEmpty with
  | true => rfl
  | false => rfl

/-- The key that clears or quits does quit if a recent first press is remembered. -/
theorem clearOrQuit_eq (s : Session) (now : Nat) :
  s.clearOrQuit now =
    if s.typing.isArmed now then s.quit else { s with prompt := {}, armedAt := some now }
  := by
  rw [clearOrQuit]
  cases h : s.armedAt with
  | none =>
    have hnot : s.typing.isArmed now = false := by rw [Typing.isArmed, typing, h]; rfl
    rw [hnot]
    rfl
  | some before =>
    have hrecent : now - before < doublePressWindow ↔ s.typing.isArmed now := by
      have hopen : 0 < doublePressWindow := by decide
      rw [Typing.isArmed, typing, h, Option.any_some, decide_eq_true_iff]
      omega
    simp only [hrecent]

theorem typing_clearOrQuit (s : Session) (now : Nat) :
  (s.clearOrQuit now).typing = s.typing.clearOrQuit now
  := by
  rw [clearOrQuit_eq, Typing.clearOrQuit]
  split
  · rfl
  · rfl

/-- What a key does to the typing while the prompt has the keys. -/
theorem typing_handleInput
    (s : Session) (now : Nat) {action : KeyAction} (h : action ≠ .clearOrQuit)
    (hmode : s.mode = .input) :
  (s.handleInput now action).1.typing = { s.typing with
    prompt := s.prompt.edited action
    mode := if action = .help then .help else .input }
  := by
  have hsame : s.typing = { s.typing with prompt := s.prompt, mode := .input } := by
    rw [← hmode]
    rfl
  cases action with
  | clearOrQuit => exact (h rfl).elim
  | submit =>
    rw [handleInput, typing_submit, if_neg (by decide), ← hmode]
    rfl
  | nextAgent => exact s.typing_switchAgent.trans hsame
  | pageUp => exact (s.typing_scrollUp _).trans hsame
  | moveUp => exact (s.typing_scrollUp _).trans hsame
  | help => rfl
  | _ =>
    rw [if_neg (by simp), ← hmode]
    rfl

/-- What a key does to a session, it does to the typing alone. -/
theorem typing_handleKey (s : Session) (now : Nat) (action : KeyAction) :
  (s.handleKey now action).1.typing = s.typing.press now action
  := by
  by_cases hignored : action = .ignored
  · rw [handleKey, Typing.press, if_pos hignored, if_pos hignored]
  · rw [Typing.press, if_neg hignored]
    cases hmode : s.mode with
    | help =>
      have hmode' : s.typing.mode = .help := hmode
      rw [handleKey_help hmode now hignored, disarm, hmode']
      split
      · rfl
      · rfl
    | input =>
      have hmode' : s.typing.mode = .input := hmode
      rw [handleKey_input hmode now hignored, hmode']
      by_cases hclear : action = .clearOrQuit
      · rw [hclear]
        exact s.typing_clearOrQuit now
      · have hdisarm : (s.disarm action).mode = .input := (s.mode_disarm action).trans hmode
        simp only [if_neg hclear]
        rw [typing_handleInput _ now hclear hdisarm, prompt_disarm, disarm, if_neg hclear]
        rfl

/-! ### Other events -/

theorem typing_notify (s : Session) (n : Notice) :
  (s.notify n).typing = s.typing
  := by
  obtain ⟨_, _, h⟩ := s.exists_notify_eq n
  rw [h]
  rfl

theorem typing_apply (s : Session) (snapshot : Snapshot) :
  (s.apply snapshot).typing = s.typing
  := by
  obtain ⟨_, happly⟩ := s.exists_apply_eq snapshot
  obtain ⟨_, _, _, _, hentries⟩ := exists_foldl_met_eq snapshot.entries s
  rw [happly, hentries]
  rfl

/-- No outcome does anything to the typing. -/
theorem typing_handleOutcome (s : Session) (o : Outcome) :
  (s.handleOutcome o).1.typing = s.typing
  := by
  apply handleOutcome_cases (P := fun s' => s'.typing = s.typing)
  · rfl
  · intro text notice
    apply typing_notify
  · apply typing_notify
  · apply typing_apply
  · intro model models
    rfl
  · intro agents
    rfl

/-- An event does to the typing what its key does, and nothing if it is no key. -/
theorem typing_handle (s : Session) (now : Nat) (e : Event) :
  (s.handle now e).1.typing = e.key?.elim s.typing (s.typing.press now)
  := by
  cases e with
  | key action => apply typing_handleKey
  | outcome o => apply typing_handleOutcome
  | resize width height => rfl
  | serverTask taskId => rfl
  | tick => rfl

/-- What a key sends is decided by the typing. -/
theorem sends_key (s : Session) (now : Nat) (action : KeyAction) :
  s.sends now (.key action) = s.typing.sent action
  := by
  rw [sends, handle_sent, Typing.sent]
  cases action with
  | submit =>
    have htyped : s.typing.mode = s.mode ∧ s.typing.prompt = s.prompt := ⟨rfl, rfl⟩
    simp only [turn, true_and, htyped]
    split
    · rfl
    · rfl
  | _ => rfl

/-! ### Runs -/

/-- The keys of a run, with the times at which they are pressed. -/
def keysOf (events : List (Nat × Event)) : List (Nat × KeyAction) :=
  events.filterMap fun event => event.2.key?.map (event.1, ·)

/-- What a key leaves the user with: the typing after it, and the texts that it sent. -/
def keystrokes (s : Session) (now : Nat) (e : Event) : List (Typing × List String) :=
  e.key?.toList.map fun _ => ((s.handle now e).1.typing, s.sends now e)

/-- The typing after a run is what its keys make of the typing before it. -/
theorem typing_run (s : Session) (events : List (Nat × Event)) :
  (s.run events).typing
    = (keysOf events).foldl (fun t key => t.press key.1 key.2) s.typing
  := by
  induction events generalizing s with
  | nil => rfl
  | cons event events ih =>
    obtain ⟨now, e⟩ := event
    have hrun : s.run ((now, e) :: events) = (s.handle now e).1.run events := rfl
    rw [hrun, ih, typing_handle]
    cases e with
    | _ => rfl

/-- What the keys of a run leave the user with hangs on the typing before it alone. -/
theorem along_keystrokes (s : Session) (events : List (Nat × Event)) :
  s.along keystrokes events = s.typing.typed (keysOf events)
  := by
  induction events generalizing s with
  | nil => rfl
  | cons event events ih =>
    obtain ⟨now, e⟩ := event
    rw [along, ih, typing_handle]
    cases e with
    | key action =>
      have hone : s.keystrokes now (.key action)
          = [((s.handle now (.key action)).1.typing, s.sends now (.key action))] := rfl
      rw [hone, typing_handle, sends_key]
      rfl
    | _ => rfl

/-- In two runs of a session in which the same keys are pressed at the same times, whatever
else happens between them, each key leaves the user with the same prompt, the same one who has
the keys, the same memory of a first press and the same answer whether the session goes on,
and sends the same text in both runs, or none in either. -/
theorem keystrokes_eq_of_same_keys
    (s : Session) {events events' : List (Nat × Event)} (h : keysOf events = keysOf events') :
  s.along keystrokes events = s.along keystrokes events'
    ∧ (s.run events).typing = (s.run events').typing
  := by
  constructor
  · rw [along_keystrokes, along_keystrokes, h]
  · rw [typing_run, typing_run, h]

/-- The user types a text, sends it and quits, in a run in which nothing else happens, and in
one in which the screen changes, the text comes back before it is sent, sending it fails, and
another roster is told: the same text is sent, and the session ends, in both runs. -/
theorem keystrokes_eq_among_answers :
  let opened := start { task := { id := "t" } } ⟨"a", "A", "m"⟩ [] {} (.ofScreen 80 24)
  let told : Snapshot :=
    { task := { id := "t" }, messages := [⟨"m", .user, none, [⟨0, .text "hi"⟩]⟩] }
  let quiet : List (Nat × Event) := [(0, .key (.insert 'h')), (1, .key (.insert 'i')),
    (2, .key .submit), (3, .key .clearOrQuit), (500 * millisecond, .key .clearOrQuit)]
  let busy : List (Nat × Event) := [(0, .tick), (0, .key (.insert 'h')), (0, .resize 10 10),
    (1, .key (.insert 'i')), (1, .outcome (.taskFetched "t" (.ok told))), (2, .key .submit),
    (2, .outcome (.messageSent "t" "hi" (.error ⟨.generic, "down", []⟩))),
    (3, .key .clearOrQuit),
    (400 * millisecond, .outcome (.agentsListed (.ok [⟨"b", "B", "n"⟩]))),
    (450 * millisecond, .serverTask "t"), (500 * millisecond, .key .clearOrQuit)]
  keysOf quiet = keysOf busy
    ∧ (opened.run quiet).conversation.length = 1 ∧ (opened.run busy).conversation.length = 3
    ∧ (opened.along keystrokes quiet).map Prod.snd = [[], [], ["hi"], [], []]
    ∧ opened.along keystrokes quiet = opened.along keystrokes busy
    ∧ (opened.run quiet).running = false
    ∧ (opened.run quiet).typing = (opened.run busy).typing
  := by
  intro opened told quiet busy
  have hkeys : keysOf quiet = keysOf busy := by decide
  obtain ⟨hstrokes, htyping⟩ := keystrokes_eq_of_same_keys opened hkeys
  exact ⟨hkeys, by decide, by decide, by decide, hstrokes, by decide, htyping⟩

end Session

end TaskConsole
