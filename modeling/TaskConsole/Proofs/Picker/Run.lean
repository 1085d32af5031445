import Mathlib.Data.List.Basic
import Mathlib.Data.List.TakeWhile
import TaskConsole.Console

/-!
# Runs of the picker

`Picker.run` gives a picker one event after another, as the console does while it shows the
picker.  Up to the first event that decides, the cursor goes where the keys aim, kept within the
list (`Picker.cursorAfter`); the event that decides confirms what the cursor is on, or gives up;
and nothing that comes later makes a difference (`Picker.run_follows_cursor`).
-/

namespace TaskConsole.Picker

variable {α : Type}

/-- A picker after an event: keys are handled, and a screen of another height has pages of
another size. -/
def take (p : Picker α) : Event → Picker α
  | .key action => p.handle action
  | .resize _ height => p.setPageSize (pickerRows height)
  | _ => p

/-- A picker after events. -/
def run (p : Picker α) (events : List Event) : Picker α := events.foldl take p

theorem run_append (p : Picker α) (events events' : List Event) :
  p.run (events ++ events') = (p.run events).run events'
  := List.foldl_append

/-- The console gives an event to the picker that it shows, and goes on with what that makes
of the picker. -/
theorem handle_picking {m : Type → Type} [Monad m] (b : Backing m) (now width height : Nat)
    {p : Picker Summary} (hpending : p.choice = .pending) (e : Event) :
  Console.handle b now ⟨width, height, .picking p⟩ e
    = Console.afterChoice b (Console.resized ⟨width, height, .picking p⟩ e) (p.take e)
  := by
  cases e with
  | key action => rfl
  | _ =>
    rw [Console.afterChoice, if_pos (by exact hpending)]
    rfl

/-! ### Where the keys lead -/

/-- Where a key aims from a cursor in a list that ends at an index. -/
def aim (last page : Nat) (cursor : Int) : KeyAction → Int
  | .moveUp => cursor - 1
  | .insert 'k' => cursor - 1
  | .moveDown => cursor + 1
  | .insert 'j' => cursor + 1
  | .pageUp => cursor - page
  | .pageDown => cursor + page
  | .home => 0
  | .toEnd => last
  | _ => cursor

/-- A place kept between the front of a list and its last index. -/
def clamp (last : Nat) (place : Int) : Nat := (max 0 (min place last)).toNat

/-- The size of a page and the cursor after an event. -/
def follow (last : Nat) : Nat × Nat → Event → Nat × Nat
  | (page, cursor), .key action => (page, clamp last (aim last page cursor action))
  | (_, cursor), .resize _ height => (pickerRows height, cursor)
  | (page, cursor), _ => (page, cursor)

/-- The cursor in a list of so many items after events, which begin on a screen of some
height. -/
def cursorAfter (count height : Nat) (events : List Event) : Nat :=
  (events.foldl (follow (count - 1)) (pickerRows height, 0)).2

/-- A cursor within the list stays where it is. -/
theorem clamp_of_le {last cursor : Nat} (h : cursor ≤ last) :
  clamp last cursor = cursor
  := by
  rw [clamp]
  omega

theorem clamp_le (last : Nat) (place : Int) :
  clamp last place ≤ last
  := by
  rw [clamp]
  omega

theorem clamp_sub (last cursor count : Nat) :
  clamp last (cursor - count) = min (cursor - count) last
  := by
  rw [clamp]
  omega

theorem clamp_add (last cursor count : Nat) :
  clamp last (cursor + count) = min (cursor + count) last
  := by
  rw [clamp]
  omega

/-- The cursor stays within the list. -/
theorem follow_le {last : Nat} {place : Nat × Nat} (h : place.2 ≤ last) (e : Event) :
  (follow last place e).2 ≤ last
  := by
  cases e with
  | key action => apply clamp_le
  | _ => exact h

theorem cursorAfter_le (count height : Nat) (events : List Event) :
  cursorAfter count height events ≤ count - 1
  := by
  have hall : ∀ place : Nat × Nat, place.2 ≤ count - 1 →
      (events.foldl (follow (count - 1)) place).2 ≤ count - 1 := by
    induction events with
    | nil => exact fun _ h => h
    | cons e events ih => exact fun place h => ih _ (follow_le h e)
  apply hall
  apply Nat.zero_le

/-- Whether a key gives up. -/
def givesUp : KeyAction → Bool
  | .escape => true
  | .clearOrQuit => true
  | .insert 'q' => true
  | _ => false

/-- Whether an event decides in a list of so many items: a key that gives up does, and the one
that submits does if there is an item. -/
def decides (count : Nat) : Event → Bool
  | .key .submit => 0 < count
  | .key action => givesUp action
  | _ => false

/-- A picker with pages of another size and another cursor. -/
def placed (p : Picker α) (place : Nat × Nat) : Picker α :=
  { p with pageSize := place.1, selected := place.2 }

/-! ### What an event does -/

/-- A key that does not decide moves the cursor of an open picker to where it aims, as far as
the list goes. -/
theorem handleOpen_of_undecided {p : Picker α}
    (hwithin : p.selected ≤ p.lastIndex) {action : KeyAction}
    (h : decides p.items.length (.key action) = false) :
  p.handleOpen action
    = p.placed (p.pageSize, clamp p.lastIndex (aim p.lastIndex p.pageSize p.selected action))
  := by
  have hstays : p = p.placed (p.pageSize, clamp p.lastIndex p.selected) := by
    rw [clamp_of_le hwithin]
    rfl
  have hup : ∀ count : Nat,
      p.up count = p.placed (p.pageSize, clamp p.lastIndex (p.selected - count)) := by
    intro count
    rw [clamp_sub]
    rfl
  have hdown : ∀ count : Nat,
      p.down count = p.placed (p.pageSize, clamp p.lastIndex (p.selected + count)) := by
    intro count
    rw [clamp_add]
    rfl
  cases action with
  | moveUp => apply hup
  | moveDown => apply hdown
  | pageUp => apply hup
  | pageDown => apply hdown
  | home =>
    rw [aim, ← Int.natCast_zero, clamp_of_le (Nat.zero_le _)]
    rfl
  | toEnd =>
    rw [aim, clamp_of_le (Nat.le_refl _)]
    rfl
  | submit =>
    have hempty : p.items.isEmpty = true := by
      simpa [decides] using h
    rw [handleOpen, confirm, if_pos hempty]
    exact hstays
  | escape => cases h
  | clearOrQuit => cases h
  | insert c =>
    by_cases hk : c = 'k'
    · rw [hk]
      apply hup
    by_cases hj : c = 'j'
    · rw [hj]
      apply hdown
    by_cases hq : c = 'q'
    · rw [hq] at h
      cases h
    · have hopen : p.handleOpen (.insert c) = p := by
        rw [handleOpen] <;> simp [hk, hj, hq]
      have haim : aim p.lastIndex p.pageSize p.selected (.insert c) = p.selected := by
        rw [aim] <;> simp [hk, hj]
      rw [hopen, haim]
      exact hstays
  | _ => exact hstays

/-- A key that gives up does so in an open picker. -/
theorem handleOpen_of_givesUp (p : Picker α) {action : KeyAction} (h : givesUp action = true) :
  p.handleOpen action = { p with choice := .cancelled }
  := by
  unfold givesUp at h
  split at h
  · rfl
  · rfl
  · rfl
  · cases h

section Pending

variable {p : Picker α} (hpending : p.choice = .pending)
include hpending

/-- An event that does not decide moves the cursor to where it leads, or changes the size of a
page. -/
theorem take_of_undecided
    (hwithin : p.selected ≤ p.lastIndex) {e : Event} (he : decides p.items.length e = false) :
  p.take e = p.placed (follow p.lastIndex (p.pageSize, p.selected) e)
  := by
  cases e with
  | key action =>
    rw [take, handle, if_pos hpending]
    apply handleOpen_of_undecided hwithin he
  | resize _ height =>
    have hrows : max (pickerRows height) 1 = pickerRows height := by
      rw [pickerRows]
      omega
    rw [take, setPageSize, hrows]
    rfl
  | _ => rfl

/-- An event that decides confirms what the cursor is on if it submits, and gives up
otherwise. -/
theorem take_of_decided {e : Event} (he : decides p.items.length e = true) :
  e = .key .submit ∧ p.items ≠ [] ∧ p.take e = { p with choice := .confirmed p.selected }
    ∨ (∃ action, e = .key action ∧ givesUp action = true)
      ∧ p.take e = { p with choice := .cancelled }
  := by
  unfold decides at he
  split at he
  · left
    have hitems : p.items ≠ [] := List.length_pos_iff.mp (of_decide_eq_true he)
    have hsome : ¬p.items.isEmpty = true := by
      rw [List.isEmpty_iff]
      exact hitems
    rw [take, handle, if_pos hpending, handleOpen, confirm, if_neg hsome]
    exact ⟨rfl, hitems, rfl⟩
  · right
    rw [take, handle, if_pos hpending]
    exact ⟨⟨_, rfl, he⟩, handleOpen_of_givesUp p he⟩
  · cases he

end Pending

/-- Once something was decided, an event changes no more than the size of a page. -/
theorem take_of_settled {p : Picker α} (hsettled : p.choice ≠ .pending) (e : Event) :
  ∃ pageSize, p.take e = { p with pageSize := pageSize }
  := by
  cases e with
  | key action =>
    use p.pageSize
    rw [take, handle, if_neg hsettled]
  | resize _ height => exact ⟨_, rfl⟩
  | _ => exact ⟨p.pageSize, rfl⟩

/-! ### Runs -/

/-- Once something was decided, events change no more than the size of a page. -/
theorem run_of_settled {p : Picker α} (hsettled : p.choice ≠ .pending) (events : List Event) :
  ∃ pageSize, p.run events = { p with pageSize := pageSize }
  := by
  induction events generalizing p with
  | nil => exact ⟨p.pageSize, rfl⟩
  | cons e events ih =>
    obtain ⟨pageSize, hstep⟩ := take_of_settled hsettled e
    have hrest : p.run (e :: events) = (p.take e).run events := rfl
    rw [hrest, hstep]
    exact ih (p := { p with pageSize := pageSize }) hsettled

/-- Up to the first event that decides, the cursor goes where the keys lead. -/
theorem run_of_undecided {p : Picker α}
    (hpending : p.choice = .pending) (hwithin : p.selected ≤ p.lastIndex) {events : List Event}
    (h : ∀ e ∈ events, decides p.items.length e = false) :
  p.run events = p.placed (events.foldl (follow p.lastIndex) (p.pageSize, p.selected))
  := by
  induction events generalizing p with
  | nil => rfl
  | cons e events ih =>
    have hstep := take_of_undecided hpending hwithin (h e List.mem_cons_self)
    have hrest : p.run (e :: events) = (p.take e).run events := rfl
    rw [hrest, hstep]
    apply ih (p := p.placed _) hpending
    · apply follow_le hwithin
    · intro e' he'
      apply h e' (List.mem_cons_of_mem _ he')

section Start

variable (items : List α) (height : Nat)

/-- Up to the first event that decides, a new picker has its cursor where the keys lead. -/
theorem run_ofItems_of_undecided {events : List Event}
    (h : ∀ e ∈ events, decides items.length e = false) :
  ∃ pageSize, (ofItems items (pickerRows height)).run events
    = { items := items, selected := cursorAfter items.length height events, pageSize := pageSize }
  := by
  have hrows : ofItems items (pickerRows height)
      = { items := items, pageSize := pickerRows height } := by
    rw [ofItems, pickerRows]
    congr 1
    omega
  rw [hrows, run_of_undecided rfl (Nat.zero_le _) h]
  exact ⟨_, rfl⟩

/-- From the first event that decides on, a new picker has its cursor where the keys before it
led; the event confirms what is there, or gives up. -/
theorem run_ofItems_of_decided {before : List Event} {e : Event}
    (hbefore : ∀ e ∈ before, decides items.length e = false)
    (he : decides items.length e = true) (after : List Event) :
  let p := (ofItems items (pickerRows height)).run (before ++ e :: after)
  p.items = items
    ∧ p.selected = cursorAfter items.length height before
    ∧ (e = .key .submit ∧ items ≠ []
        ∧ p.choice = .confirmed (cursorAfter items.length height before)
      ∨ (∃ action, e = .key action ∧ givesUp action = true) ∧ p.choice = .cancelled)
  := by
  intro p
  obtain ⟨pageSize, hundecided⟩ := run_ofItems_of_undecided items height hbefore
  have hrun : p = (((ofItems items (pickerRows height)).run before).take e).run after :=
    run_append _ _ _
  let undecided : Picker α :=
    { items := items, selected := cursorAfter items.length height before, pageSize := pageSize }
  have hdecided := undecided.take_of_decided rfl he
  have hsettled : (undecided.take e).choice ≠ .pending := by
    rcases hdecided with ⟨-, -, htake⟩ | ⟨-, htake⟩
    · rw [htake]
      nofun
    · rw [htake]
      nofun
  obtain ⟨_, hafter⟩ := run_of_settled hsettled after
  rw [hundecided, hafter] at hrun
  rw [hrun]
  rcases hdecided with ⟨hsubmit, hitems, htake⟩ | ⟨hkey, htake⟩
  · rw [htake]
    exact ⟨rfl, rfl, .inl ⟨hsubmit, hitems, rfl⟩⟩
  · rw [htake]
    exact ⟨rfl, rfl, .inr ⟨hkey, rfl⟩⟩

/-- Among events that do not all leave the choice open, there is a first one that decides. -/
theorem exists_first_of_not_undecided {count : Nat} {events : List Event}
    (h : ¬∀ e ∈ events, decides count e = false) :
  ∃ before e after, events = before ++ e :: after
    ∧ (∀ e ∈ before, decides count e = false) ∧ decides count e = true
  := by
  cases hfirst : events.find? (decides count) with
  | none =>
    exfalso
    apply h
    intro e he
    exact Bool.eq_false_iff.mpr (List.find?_eq_none.mp hfirst e he)
  | some e =>
    obtain ⟨he, before, after, hevents, hbefore⟩ := List.find?_eq_some_iff_append.mp hfirst
    use before, e, after, hevents
    constructor
    · intro e' he'
      exact (Bool.not_eq_true' _).mp (hbefore e' he')
    · exact he

/-- The choice is open as long as nothing decides. -/
theorem choice_eq_pending_iff (events : List Event) :
  ((ofItems items (pickerRows height)).run events).choice = .pending
    ↔ ∀ e ∈ events, decides items.length e = false
  := by
  constructor
  · intro hpending
    by_contra h
    obtain ⟨before, e, after, hevents, hbefore, he⟩ := exists_first_of_not_undecided h
    rw [hevents] at hpending
    rcases run_ofItems_of_decided items height hbefore he after with
      ⟨-, -, ⟨-, -, hchoice⟩ | ⟨-, hchoice⟩⟩
    · cases hpending.symm.trans hchoice
    · cases hpending.symm.trans hchoice
  · intro h
    obtain ⟨_, hrun⟩ := run_ofItems_of_undecided items height h
    rw [hrun]

/-- The choice is confirmed with a cursor exactly if that is where the keys led before the first
event that decides, and that submits. -/
theorem choice_eq_confirmed_iff (events : List Event) (index : Nat) :
  ((ofItems items (pickerRows height)).run events).choice = .confirmed index
    ↔ ∃ before after, events = before ++ .key .submit :: after
      ∧ (∀ e ∈ before, decides items.length e = false)
      ∧ items ≠ [] ∧ index = cursorAfter items.length height before
  := by
  constructor
  · intro hconfirmed
    have hdecided : ¬∀ e ∈ events, decides items.length e = false := by
      rw [← choice_eq_pending_iff items height, hconfirmed]
      nofun
    obtain ⟨before, e, after, hevents, hbefore, he⟩ := exists_first_of_not_undecided hdecided
    rw [hevents] at hconfirmed
    rcases run_ofItems_of_decided items height hbefore he after with
      ⟨-, -, ⟨hsubmit, hitems, hchoice⟩ | ⟨-, hchoice⟩⟩
    · use before, after
      rw [hsubmit] at hevents
      exact ⟨hevents, hbefore, hitems, Choice.confirmed.inj (hconfirmed.symm.trans hchoice)⟩
    · cases hconfirmed.symm.trans hchoice
  · rintro ⟨before, after, hevents, hbefore, hitems, hindex⟩
    have hsubmit : decides items.length (.key .submit) = true :=
      decide_eq_true (List.length_pos_iff.mpr hitems)
    rcases run_ofItems_of_decided items height hbefore hsubmit after with
      ⟨-, -, ⟨-, -, hchoice⟩ | ⟨⟨action, haction, hgivesUp⟩, -⟩⟩
    · rw [hevents, hindex]
      exact hchoice
    · cases haction
      cases hgivesUp

/-- The choice is given up exactly if the first event that decides is a key that gives up. -/
theorem choice_eq_cancelled_iff (events : List Event) :
  ((ofItems items (pickerRows height)).run events).choice = .cancelled
    ↔ ∃ before action after, events = before ++ .key action :: after
      ∧ (∀ e ∈ before, decides items.length e = false) ∧ givesUp action = true
  := by
  constructor
  · intro hcancelled
    have hdecided : ¬∀ e ∈ events, decides items.length e = false := by
      rw [← choice_eq_pending_iff items height, hcancelled]
      nofun
    obtain ⟨before, e, after, hevents, hbefore, he⟩ := exists_first_of_not_undecided hdecided
    rw [hevents] at hcancelled
    rcases run_ofItems_of_decided items height hbefore he after with
      ⟨-, -, ⟨-, -, hchoice⟩ | ⟨⟨action, haction, hgivesUp⟩, -⟩⟩
    · cases hcancelled.symm.trans hchoice
    · use before, action, after
      rw [haction] at hevents
      exact ⟨hevents, hbefore, hgivesUp⟩
  · rintro ⟨before, action, after, hevents, hbefore, hgivesUp⟩
    have hkey : decides items.length (.key action) = true := by
      cases action with
      | submit => cases hgivesUp
      | _ => exact hgivesUp
    rcases run_ofItems_of_decided items height hbefore hkey after with
      ⟨-, -, ⟨hsubmit, -, -⟩ | ⟨-, hchoice⟩⟩
    · cases hsubmit
      cases hgivesUp
    · rw [hevents]
      exact hchoice

/-- The items stay, and the cursor is where the keys led up to the first event that decides. -/
theorem selected_run_ofItems (events : List Event) :
  let p := (ofItems items (pickerRows height)).run events
  p.items = items
    ∧ p.selected = cursorAfter items.length height
      (events.takeWhile fun e => !decides items.length e)
  := by
  by_cases h : ∀ e ∈ events, decides items.length e = false
  · obtain ⟨_, hrun⟩ := run_ofItems_of_undecided items height h
    have hall : events.takeWhile (fun e => !decides items.length e) = events := by
      rw [List.takeWhile_eq_self_iff]
      intro e he
      rw [h e he]
      rfl
    rw [hrun, hall]
    exact ⟨rfl, rfl⟩
  · obtain ⟨before, e, after, hevents, hbefore, he⟩ := exists_first_of_not_undecided h
    obtain ⟨hitems, hselected, -⟩ := run_ofItems_of_decided items height hbefore he after
    have hfirst : events.takeWhile (fun e => !decides items.length e) = before := by
      have hundecided : ∀ e ∈ before, (!decides items.length e) = true := by
        intro e he
        rw [hbefore e he]
        rfl
      rw [hevents, List.takeWhile_append_of_pos hundecided, List.takeWhile_cons, he]
      apply List.append_nil
    rw [hfirst, hevents]
    exact ⟨hitems, hselected⟩

/-- A picker of some items, whatever events it is given: its cursor is where the keys led up to
the first event that decides, and within the list.  As long as nothing decides, the choice is
open.  It is confirmed with the cursor of that moment exactly if a key submits, with an item to
submit, before any key gives up; and given up exactly if a key gives up before that.  From then
on neither the choice nor the cursor changes.  The item that was confirmed is the one at the
cursor in the list that the picker was made of, and there is none if nothing was confirmed. -/
theorem run_follows_cursor (events : List Event) :
  let p := (ofItems items (pickerRows height)).run events
  let cursor := cursorAfter items.length height
  let undecided (events : List Event) := ∀ e ∈ events, decides items.length e = false
  p.selected = cursor (events.takeWhile fun e => !decides items.length e)
    ∧ p.selected ≤ items.length - 1
    ∧ (p.choice = .pending ↔ undecided events)
    ∧ (∀ index, p.choice = .confirmed index ↔ ∃ before after,
        events = before ++ .key .submit :: after
          ∧ undecided before ∧ items ≠ [] ∧ index = cursor before)
    ∧ (p.choice = .cancelled ↔ ∃ before action after,
        events = before ++ .key action :: after ∧ undecided before ∧ givesUp action = true)
    ∧ (p.choice ≠ .pending → ∀ more,
        (p.run more).choice = p.choice ∧ (p.run more).selected = p.selected)
    ∧ (∀ index, p.choice = .confirmed index →
        ∃ h : index < items.length, p.confirmed? = some items[index])
    ∧ ((∀ index, p.choice ≠ .confirmed index) → p.confirmed? = none)
  := by
  intro p cursor undecided
  obtain ⟨hitems, hselected⟩ := selected_run_ofItems items height events
  have hconfirmed := choice_eq_confirmed_iff items height events
  use hselected
  constructor
  · apply Nat.le_trans (Nat.le_of_eq hselected)
    apply cursorAfter_le
  use choice_eq_pending_iff items height events, hconfirmed,
    choice_eq_cancelled_iff items height events
  constructor
  · intro hsettled more
    obtain ⟨_, hmore⟩ := run_of_settled hsettled more
    rw [hmore]
    exact ⟨rfl, rfl⟩
  constructor
  · intro index hchoice
    obtain ⟨before, -, -, -, hsome, rfl⟩ := (hconfirmed index).mp hchoice
    have hwithin : cursorAfter items.length height before < items.length := by
      have hle := cursorAfter_le items.length height before
      have hpos := List.length_pos_iff.mpr hsome
      omega
    use hwithin
    rw [confirmed?, hchoice]
    exact (congrArg (·[_]?) hitems).trans (List.getElem?_eq_getElem hwithin)
  · intro hnone
    rw [confirmed?]
    split
    · exact absurd ‹_› (hnone _)
    · rfl
    · rfl

end Start

end TaskConsole.Picker
