import TaskConsole.Proofs.Conversation.Occurrence
import TaskConsole.Proofs.Text.Digits

/-!
# Names of entries

An entry is named for its message and the place of its part, or, when it is a call with
an id of its own, by that id (`Message.id_of_mem_entries`).  A name of the first kind
tells the message and the place (`Message.placeId_inj`).
-/

namespace TaskConsole.Message

open Entry

/-- The name by a place tells the message and the place. -/
theorem placeId_inj {m m' : Message} {i j : Nat} (h : m.placeId i = m'.placeId j) :
  m.id = m'.id ∧ i = j
  := by
  have hchars : m.id.toList ++ '/' :: (toString i).toList
      = m'.id.toList ++ '/' :: (toString j).toList := by
    have hlists := congrArg String.toList h
    simp only [placeId, String.toList_append, List.append_assoc] at hlists
    exact hlists
  obtain ⟨hid, hplace⟩ := Text.eq_of_append_digits rfl hchars
  exact ⟨String.toList_injective hid, hplace⟩

/-- The id of a part, if it is a call. -/
def callId? (p : PlacedPart) : Option String :=
  match p.part with
  | .call call => some call.id
  | _ => none

/-- The ids of the calls of a message. -/
def callIds (m : Message) : List String := m.parts.filterMap callId?

/-- An entry of a message is named by a place, or by a call of the message. -/
theorem id_of_mem_entries {m : Message} {e : Entry} (h : e ∈ m.entries) :
  (∃ i, e.id = m.placeId i) ∨ e.id ∈ m.callIds
  := by
  obtain ⟨p, hp, hentry⟩ := List.mem_filterMap.mp h
  rw [ entry?] at hentry
  split at hentry
  · split at hentry
    · cases hentry
    · left
      use p.index
      rw [← Option.some.inj hentry]
  · next call hcall =>
    rw [← Option.some.inj hentry]
    by_cases hempty : call.id.isEmpty
    · left
      use p.index
      apply if_pos hempty
    · right
      rw [if_neg hempty]
      apply List.mem_filterMap.mpr
      use p, hp
      rw [callId?, hcall]
  · left
    use p.index
    rw [← Option.some.inj hentry]

/-- A message of the user with one text that is not blank has one entry, for that text. -/
theorem entries_of_text {m : Message} {i : Nat} {text : String}
    (hrole : m.role = .user) (hparts : m.parts = [⟨i, .text text⟩])
    (hblank : Text.isBlankText text = false) :
  m.entries = [{ id := m.placeId i, kind := .userText text }]
  := by
  have hentry : m.entry? ⟨i, .text text⟩ = some { id := m.placeId i, kind := .userText text } := by
    simp only [ entry?, hblank, hrole, if_true, Bool.false_eq_true, if_false]
  rw [entries, hparts, List.filterMap_cons_some hentry, List.filterMap_nil]

/-- Nobody but the user has texts of the user. -/
theorem userText?_of_mem_entries {m : Message} (hrole : m.role ≠ .user) {e : Entry}
    (h : e ∈ m.entries) :
  e.userText? = none
  := by
  obtain ⟨p, hp, hentry⟩ := List.mem_filterMap.mp h
  rw [ entry?] at hentry
  split at hentry
  · split at hentry
    · cases hentry
    · rw [← Option.some.inj hentry]
      rfl
  · rw [← Option.some.inj hentry]
    rfl
  · rw [← Option.some.inj hentry]
    rfl

end TaskConsole.Message
