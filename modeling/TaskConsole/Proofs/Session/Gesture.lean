import Mathlib.Data.List.Induction
import TaskConsole.Proofs.Session.Typing

/-!
# The gesture that quits

Two presses of the key that clears or quits, one soon after the other, end a session.  A
`Stroke` is a key that means something, with the time at which it is pressed and who has the
keys then; what a session remembers of a first press is its last stroke
(`Session.recalls_run`).  So a session ends at an event exactly if that is the second press of
the gesture (`Session.IsSecondPress`) and no event before it was
(`Session.endsAt_iff_isSecondPress`).
-/

namespace TaskConsole

/-- A key that means something: when it is pressed, what it asks for, and who has the keys. -/
structure Stroke where
  time : Nat
  action : KeyAction
  mode : Mode
deriving DecidableEq

/-! ### Keys -/

namespace Typing

/-- What is remembered of a first press goes with the last stroke, if there was one: it is
the time of the stroke if that was a press of the key that clears or quits while the prompt
had the keys, as long as the session goes on.  In the help, nothing is remembered. -/
structure Recalls (t : Typing) (last : Option Stroke) : Prop where
  armed : t.running = true →
    ∀ time, t.armedAt = some time ↔ last = some ⟨time, .clearOrQuit, .input⟩
  help : t.mode = .help → t.armedAt = none

/-- After a key that means something, it is the last stroke that is remembered. -/
theorem Recalls.press
    {t : Typing} {last : Option Stroke} (h : t.Recalls last) (now : Nat) {action : KeyAction}
    (haction : action ≠ .ignored) :
  (t.press now action).Recalls (some ⟨now, action, t.mode⟩)
  := by
  rw [Typing.press, if_neg haction]
  cases hmode : t.mode with
  | help =>
    have hnone : (if action = .clearOrQuit then t.armedAt else none) = none := by
      rw [h.help hmode, ite_self]
    constructor
    · simp [hnone]
    · intro _
      exact hnone
  | input =>
    by_cases hclear : action = .clearOrQuit
    · simp only [if_pos hclear, clearOrQuit]
      split
      -- a press that quits puts no time by, but then the session does not go on
      · constructor
        · simp
        · simp [hmode]
      · constructor
        · simp [hclear]
        · simp [hmode]
    · simp only [if_neg hclear]
      constructor
      · simp [hclear]
      · simp

/-- A session is over after a key if it was over before, or if the key is that which clears
or quits, pressed while the prompt has the keys and a recent first press is remembered. -/
theorem running_press (t : Typing) (now : Nat) (action : KeyAction) :
  (t.press now action).running = false
    ↔ t.running = false ∨ action = .clearOrQuit ∧ t.mode = .input ∧ t.isArmed now
  := by
  rw [press]
  by_cases hignored : action = .ignored
  · simp [hignored]
  · rw [if_neg hignored]
    cases hmode : t.mode with
    | help => simp
    | input =>
      by_cases hclear : action = .clearOrQuit
      · cases harmed : t.isArmed now with
        | true => simp [hclear, clearOrQuit, harmed]
        | false => simp [hclear, clearOrQuit, harmed]
      · simp [hclear]

end Typing

/-! ### Events -/

namespace Session

/-- The stroke that an event is, if it is one. -/
def strokes (s : Session) (now : Nat) (e : Event) : List Stroke :=
  match e.key? with
  | some action => if action = .ignored then [] else [⟨now, action, s.mode⟩]
  | none => []

/-- After an event, the last stroke is remembered. -/
theorem recalls_handle
    {s : Session} {last : Option Stroke} (h : s.typing.Recalls last) (now : Nat) (e : Event) :
  (s.handle now e).1.typing.Recalls ((s.strokes now e).getLast?.or last)
  := by
  rw [typing_handle, strokes]
  cases e.key? with
  | none => exact h
  | some action =>
    by_cases hignored : action = .ignored
    · simp only [if_pos hignored, Option.elim_some, Typing.press]
      exact h
    · simp only [if_neg hignored]
      exact h.press now hignored

/-- Throughout a run, the last stroke is remembered. -/
theorem recalls_run
    {s : Session} (h : s.typing.Recalls none) (events : List (Nat × Event)) :
  (s.run events).typing.Recalls (s.along strokes events).getLast?
  := by
  induction events using List.reverseRecOn with
  | nil => exact h
  | append_singleton events event ih =>
    obtain ⟨now, e⟩ := event
    have hlast := recalls_handle ih now e
    rw [run_append, along_append, List.getLast?_append]
    simp only [along, List.append_nil]
    exact hlast

/-! ### Runs -/

/-- Whether an event after a run is the second press of the gesture that quits: a press of the
key that clears or quits while the prompt has the keys, where the last key before it that means
something was such a press too, less than the window earlier. -/
def IsSecondPress (s : Session) (before : List (Nat × Event)) (now : Nat) (e : Event) : Prop :=
  e = .key .clearOrQuit ∧ (s.run before).mode = .input
    ∧ ∃ time, (s.along strokes before).getLast? = some ⟨time, .clearOrQuit, .input⟩
      ∧ now < time + doublePressWindow

/-- Whether a session that goes on throughout a run is over after a further event. -/
def EndsAt (s : Session) (before : List (Nat × Event)) (now : Nat) (e : Event) : Prop :=
  (∀ earlier, earlier <+: before → (s.run earlier).running = true)
    ∧ ((s.run before).handle now e).1.running = false

/-- A session that goes on is over after an event exactly if this is a second press. -/
theorem running_handle_iff
    {s : Session} (h : s.typing.Recalls none) (before : List (Nat × Event)) (now : Nat)
    (e : Event) :
  ((s.run before).handle now e).1.running = false
    ↔ (s.run before).running = false ∨ s.IsSecondPress before now e
  := by
  have hrecalls := recalls_run h before
  have htyping := (s.run before).typing_handle now e
  have hrunning : ((s.run before).handle now e).1.running
      = ((s.run before).handle now e).1.typing.running := rfl
  rw [hrunning, htyping]
  cases e with
  | key action =>
    have hkey : (Event.key action).key? = some action := rfl
    rw [hkey, Option.elim_some, Typing.running_press]
    by_cases hover : (s.run before).running = false
    · exact iff_of_true (.inl hover) (.inl hover)
    · have hgoes : (s.run before).typing.running = true := Bool.not_eq_false _ ▸ hover
      have harmed : (s.run before).typing.isArmed now = true
          ↔ ∃ time, (s.along strokes before).getLast? = some ⟨time, .clearOrQuit, .input⟩
            ∧ now < time + doublePressWindow := by
        simp only [Typing.isArmed, Option.any_eq_true, decide_eq_true_iff,
          hrecalls.armed hgoes]
      rw [harmed, IsSecondPress, Event.key.injEq]
      rfl
  | _ =>
    constructor
    · intro hover
      exact .inl hover
    · rintro (hover | hpress)
      · exact hover
      · cases hpress.1

/-- A session is over after a run exactly if there was a second press in it. -/
theorem running_run_iff
    {s : Session} (h : s.typing.Recalls none) (hgoes : s.running = true)
    (events : List (Nat × Event)) :
  (s.run events).running = false
    ↔ ∃ before now e, before ++ [(now, e)] <+: events ∧ s.IsSecondPress before now e
  := by
  induction events using List.reverseRecOn with
  | nil =>
    constructor
    · intro hover
      rw [run, List.foldl_nil, hgoes] at hover
      cases hover
    · rintro ⟨before, now, e, hpart, -⟩
      cases List.append_ne_nil_of_right_ne_nil before (by simp) (List.prefix_nil.mp hpart)
  | append_singleton events event ih =>
    obtain ⟨now, e⟩ := event
    rw [run_append]
    apply (running_handle_iff h events now e).trans
    rw [ih]
    -- a second press in the longer run is one of the shorter run, or the event at its end
    constructor
    · rintro (⟨before, now', e', hpart, hpress⟩ | hpress)
      · exact ⟨before, now', e', hpart.trans (List.prefix_append _ _), hpress⟩
      · exact ⟨events, now, e, List.prefix_rfl, hpress⟩
    · rintro ⟨before, now', e', hpart, hpress⟩
      rcases List.prefix_concat_iff.mp hpart with heq | hpart
      · right
        obtain ⟨rfl, hlast⟩ := List.append_inj' heq rfl
        obtain ⟨rfl, rfl⟩ := Prod.mk.inj (List.singleton_inj.mp hlast)
        exact hpress
      · exact .inl ⟨before, now', e', hpart, hpress⟩

section Start

variable (snapshot : Snapshot) (agent : Agent) (agents : List Agent) (theme : Theme)
  (viewport : Viewport)

/-- A session starts with an empty prompt that has the keys, and remembers no press. -/
theorem typing_start :
  (start snapshot agent agents theme viewport).typing = {}
  := by
  rw [start, typing_apply]
  rfl

/-- A session ends at an event exactly if that is the second press of the gesture that quits
and none of the events before it was; and whatever was pressed before, an event leaves the
session over exactly if it was over already or the event is such a second press. -/
theorem endsAt_iff_isSecondPress (before : List (Nat × Event)) (now : Nat) (e : Event) :
  let opened := start snapshot agent agents theme viewport
  (opened.EndsAt before now e
    ↔ opened.IsSecondPress before now e
      ∧ ∀ earlier now' e', earlier ++ [(now', e')] <+: before
        → ¬ opened.IsSecondPress earlier now' e')
  ∧ (((opened.run before).handle now e).1.running = false
    ↔ (opened.run before).running = false ∨ opened.IsSecondPress before now e)
  := by
  intro opened
  have htyping : opened.typing = {} := typing_start snapshot agent agents theme viewport
  have hrecalls : opened.typing.Recalls none := by
    rw [htyping]
    exact ⟨by simp, by simp⟩
  have hgoes : opened.running = true := congrArg Typing.running htyping
  have hstep := running_handle_iff hrecalls before now e
  refine ⟨?_, hstep⟩
  have hbefore := running_run_iff hrecalls hgoes before
  rw [EndsAt, hstep]
  constructor
  · rintro ⟨hgoing, hends⟩
    have hnow : (opened.run before).running = true := hgoing before List.prefix_rfl
    have hfirst : ¬ (opened.run before).running = false := by simp [hnow]
    use hends.resolve_left hfirst
    intro earlier now' e' hpart hpress
    exact hfirst (hbefore.mpr ⟨earlier, now', e', hpart, hpress⟩)
  · rintro ⟨hpress, hfirst⟩
    refine ⟨?_, .inr hpress⟩
    intro earlier hearlier
    rw [← Bool.not_eq_false, running_run_iff hrecalls hgoes earlier]
    rintro ⟨before', now', e', hpart, hpress'⟩
    exact hfirst before' now' e' (hpart.trans hearlier) hpress'

/-- The window is open at its end, a press that comes too late is a first one again, and a
press that closes the help is none. -/
example :
  let opened := start { task := { id := "t" } } ⟨"a", "A", "m"⟩ [] {} (.ofScreen 80 24)
  let press : Event := .key .clearOrQuit
  let late := doublePressWindow
  (opened.run [(0, press), (1, .tick), (2, .key .ignored), (late - 1, press)]).running = false
    ∧ (opened.run [(0, press), (late, press)]).running = true
    ∧ (opened.run [(0, press), (late, press), (2 * late - 1, press)]).running = false
    ∧ (opened.run [(0, press), (1, .key .help), (2, press), (3, press)]).running = true
  := by decide

end Start

end Session

end TaskConsole
