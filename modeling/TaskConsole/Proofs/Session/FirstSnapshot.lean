import Mathlib.Algebra.GroupWithZero.Nat
import TaskConsole.Proofs.Conversation.Collision
import TaskConsole.Proofs.Session.Run

/-!
# The first snapshot

A session that has seen nothing and waits for no echo adds the first entry of every name in a
snapshot.  That is every entry exactly if no call was given a name that another entry has too
(`Session.all_gained_iff_isWellNamed`).
-/

namespace TaskConsole.Session

open Entry

/-- Taking a snapshot of messages with different ids, a session that has seen nothing and waits
for no echo adds the first entry of every name, in the order of the messages and their parts.
No two entries that are named by their places have the same name.  So it adds every entry, and
as many as the messages have together, exactly if no call was given an id that another call, or
the place of another entry, has too. -/
theorem all_gained_iff_isWellNamed {s : Session} {snapshot : Snapshot}
    (hseen : s.seen = []) (hechoes : s.echoes = [])
    (hids : (snapshot.messages.map Message.id).Nodup)
    (hplaces : ∀ m ∈ snapshot.messages, m.IsPlaced) :
  let s' := s.apply snapshot
  s'.conversation = s.conversation ++ firsts snapshot.entries
    ∧ snapshot.placeIds.Nodup
    ∧ (s'.conversation = s.conversation ++ snapshot.messages.flatMap Message.entries
      ↔ snapshot.IsWellNamed)
    ∧ (s'.conversation.length
        = s.conversation.length + (snapshot.messages.map fun m => m.entries.length).sum
      ↔ snapshot.IsWellNamed)
  := by
  intro s'
  have hgained : s'.conversation = s.conversation ++ firsts snapshot.entries :=
    conversation_apply_of_unseen hseen hechoes snapshot
  have hall : firsts snapshot.entries = snapshot.entries ↔ snapshot.IsWellNamed :=
    (firsts_eq_self_iff _).trans (Snapshot.nodup_ids_iff hids hplaces)
  use hgained, Snapshot.nodup_placeIds hids hplaces
  constructor
  · rw [hgained, List.append_cancel_left_eq]
    exact hall
  · have hsum : (snapshot.messages.map fun m => m.entries.length).sum = snapshot.entries.length :=
      List.length_flatMap.symm
    rw [hgained, List.length_append, hsum, Nat.add_left_cancel_iff, ← hall]
    exact ⟨(firsts_sublist _).eq_of_length, congrArg List.length⟩

/-- All entries of two messages are added, of which one is called like a place of the other,
and of which the calls are called like a number and like a place with nothing to show. -/
theorem all_gained_of_numbers_and_slashes :
  let s := start { task := { id := "t" } } ⟨"a", "A", "m"⟩ [] {} (.ofScreen 80 24)
  let call (id : String) : Part := .call { id := id, invocation := .read "f" }
  let snapshot : Snapshot := { task := { id := "t" }, messages := [
    ⟨"m", .user, none, [⟨0, .text "hi"⟩, ⟨1, .text " "⟩, ⟨3, call ""⟩]⟩,
    ⟨"m/0", .assistant, none, [⟨0, call "0"⟩, ⟨1, .text "yes"⟩, ⟨2, call "m/1"⟩]⟩] }
  s.seen = [] ∧ s.echoes = [] ∧ (snapshot.messages.map Message.id).Nodup
    ∧ (∀ m ∈ snapshot.messages, m.IsPlaced) ∧ snapshot.IsWellNamed
    ∧ (s.apply snapshot).conversation.map Entry.id = ["m/0", "m/3", "0", "m/0/1", "m/1"]
    ∧ (s.apply snapshot).conversation
      = s.conversation ++ snapshot.messages.flatMap Message.entries
  := by
  intro s call snapshot
  have hseen : s.seen = [] := rfl
  have hechoes : s.echoes = [] := rfl
  have hids : (snapshot.messages.map Message.id).Nodup := by decide
  have hplaces : ∀ m ∈ snapshot.messages, m.IsPlaced := by decide
  have hnamed : snapshot.IsWellNamed := by
    constructor
    · decide
    · decide
  obtain ⟨-, -, hall, -⟩ := all_gained_iff_isWellNamed hseen hechoes hids hplaces
  exact ⟨hseen, hechoes, hids, hplaces, hnamed, by decide, hall.mpr hnamed⟩

/-- Of a message with two calls of the same id, a call that is called like the place of a text,
and that text, two of four entries are added. -/
theorem half_lost_of_shared_names :
  let s := start { task := { id := "t" } } ⟨"a", "A", "m"⟩ [] {} (.ofScreen 80 24)
  let call (id : String) (path : String) : Part := .call { id := id, invocation := .read path }
  let m : Message := ⟨"m", .assistant, none,
    [⟨0, call "c" "f"⟩, ⟨1, call "c" "g"⟩, ⟨2, call "m/3" "h"⟩, ⟨3, .text "done"⟩]⟩
  s.seen = [] ∧ s.echoes = [] ∧ s.conversation.length = 0 ∧ m.entries.length = 4
    ∧ (s.apply { task := { id := "t" }, messages := [m] }).conversation.length = 2
    ∧ (s.apply { task := { id := "t" }, messages := [m] }).conversation.map Entry.id
      = ["c", "m/3"]
  := by decide

end TaskConsole.Session
