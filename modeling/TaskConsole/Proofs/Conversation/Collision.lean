import Mathlib.Data.List.Nodup
import Mathlib.Data.List.Perm.Basic
import TaskConsole.Proofs.Conversation.Naming
import TaskConsole.Task.Wire

/-!
# Names that collide

The entries of a snapshot are named in two ways: calls by ids of their own
(`Snapshot.givenIds`), all others by the places of their parts (`Snapshot.placeIds`), and these
are all their names (`Snapshot.ids_perm`).  The parts of a message that was read are at places
of their own (`Snapshot.isPlaced_of_ofJson?`), so no two names by places collide, whatever the
messages are called (`Snapshot.nodup_placeIds`).  That leaves collisions with the names that
calls were given (`Snapshot.nodup_ids_iff`).
-/

namespace TaskConsole

/-! ### Places -/

/-- What stands in a list that is read was read. -/
theorem Json.exists_of_mem_listOf {α : Type} {read : Json → Option α} {value : Json}
    {xs : List α} (h : Json.listOf read value = some xs) {x : α} (hx : x ∈ xs) :
  ∃ item, read item = some x
  := by
  obtain ⟨items, -, hitems⟩ := Option.bind_eq_some_iff.mp h
  clear h
  induction items generalizing xs with
  | nil =>
    rw [← Option.some.inj hitems] at hx
    exact (List.not_mem_nil hx).elim
  | cons item items ih =>
    simp only [List.mapM_cons, Option.bind_eq_bind, Option.bind_eq_some_iff, Option.pure_def,
      Option.some.injEq] at hitems
    obtain ⟨first, hfirst, rest, hrest, rfl⟩ := hitems
    rcases List.mem_cons.mp hx with rfl | hx
    · exact ⟨item, hfirst⟩
    · apply ih hx hrest

/-- Whether the parts of a message are at different places. -/
def Message.IsPlaced (m : Message) : Prop := (m.parts.map PlacedPart.index).Nodup

instance (m : Message) : Decidable m.IsPlaced :=
  inferInstanceAs (Decidable (m.parts.map PlacedPart.index).Nodup)

/-- The parts that are read are at different places. -/
theorem Part.nodup_ofItems (items : List Json) :
  ((Part.ofItems items).map PlacedPart.index).Nodup
  := by
  have hplaces : (items.zipIdx.map Prod.snd).Nodup := by
    rw [List.zipIdx_map_snd]
    exact List.nodup_range'
  rw [ofItems, List.Nodup, List.pairwise_map, List.pairwise_filterMap]
  apply (List.pairwise_map.mp hplaces).imp
  intro item item' hne p hp p' hp'
  obtain ⟨_, _, rfl⟩ := Option.map_eq_some_iff.mp hp
  obtain ⟨_, _, rfl⟩ := Option.map_eq_some_iff.mp hp'
  exact hne

/-- The parts of a message that is read are at different places. -/
theorem Message.isPlaced_of_ofJson? {level : Nat} {value : Json} {m : Message}
    (h : Message.ofJson? level value = some m) :
  m.IsPlaced
  := by
  have hparts : ∀ {field : Option Json} {parts : List PlacedPart},
      Json.orElse [] (Part.listOfJson? (level + 1)) field = some parts →
      (parts.map PlacedPart.index).Nodup := by
    intro field parts hread
    cases field with
    | none =>
      rw [← Option.some.inj hread]
      apply List.nodup_nil
    | some value =>
      simp only [Json.orElse, Part.listOfJson?, Option.bind_eq_bind, Option.bind_eq_some_iff,
        Option.pure_def, Option.some.injEq] at hread
      obtain ⟨_, _, items, _, rfl⟩ := hread
      apply Part.nodup_ofItems
  rw [Message.ofJson?] at h
  obtain ⟨fields, -, h⟩ := Option.bind_eq_some_iff.mp h
  split at h
  · simp only [Option.bind_eq_bind, Option.bind_eq_some_iff, Option.pure_def,
      Option.some.injEq] at h
    obtain ⟨_, _, _, _, _, _, parts, hread, rfl⟩ := h
    exact hparts hread
  · cases h

/-- The parts of every message of a snapshot that is read are at different places. -/
theorem Snapshot.isPlaced_of_ofJson? {value : Json} {snapshot : Snapshot}
    (h : Snapshot.ofJson? value = some snapshot) :
  ∀ m ∈ snapshot.messages, m.IsPlaced
  := by
  have hmessages : ∀ {field : Option Json} {messages : List Message},
      Json.orElse [] (Json.listOf (Message.ofJson? 3)) field = some messages →
      ∀ m ∈ messages, m.IsPlaced := by
    intro field messages hread m hm
    cases field with
    | none =>
      rw [← Option.some.inj hread] at hm
      exact (List.not_mem_nil hm).elim
    | some value =>
      obtain ⟨_, hmessage⟩ := Json.exists_of_mem_listOf hread hm
      apply Message.isPlaced_of_ofJson? hmessage
  rw [Snapshot.ofJson?] at h
  obtain ⟨fields, -, h⟩ := Option.bind_eq_some_iff.mp h
  split at h
  · simp only [Option.bind_eq_bind, Option.bind_eq_some_iff, Option.pure_def,
      Option.some.injEq] at h
    obtain ⟨_, _, _, _, _, _, _, _, _, _, _, _, messages, hread, rfl⟩ := h
    exact hmessages hread
  · cases h

/-! ### Names -/

/-- The id that a part gives its entry, if it is a call with an id of its own. -/
def PlacedPart.givenId? (p : PlacedPart) : Option String :=
  match p.part with
  | .call call => if call.id.isEmpty then none else some call.id
  | _ => none

namespace Message

/-- The ids that the calls of a message give their entries. -/
def givenIds (m : Message) : List String := m.parts.filterMap PlacedPart.givenId?

/-- The name by its place of the entry of a part, if the part has an entry and gives it no
other name. -/
def placeId? (m : Message) (p : PlacedPart) : Option String :=
  if p.givenId?.isNone ∧ ( m.entry? p).isSome then some (m.placeId p.index) else none

/-- The names by their places of the entries of a message that have no other. -/
def placeIds (m : Message) : List String := m.parts.filterMap m.placeId?

/-- A part that has an entry names it by the id that it gives it, or else by its place. -/
theorem entry?_id (m : Message) (p : PlacedPart) :
  ( m.entry? p).map Entry.id = p.givenId?.or (m.placeId? p)
  := by
  obtain ⟨index, part⟩ := p
  cases part with
  | text text =>
    by_cases hblank : Text.isBlankText text = true
    · simp [ entry?, PlacedPart.givenId?, placeId?, hblank]
    · simp [ entry?, PlacedPart.givenId?, placeId?, hblank]
  | call call =>
    by_cases hempty : call.id.isEmpty = true
    · simp [ entry?, PlacedPart.givenId?, placeId?, hempty]
    · simp [ entry?, PlacedPart.givenId?, placeId?, hempty]
  | result result => simp [ entry?, PlacedPart.givenId?, placeId?]

/-- The entries of a message have the names that its calls give, and names by places. -/
theorem ids_perm (m : Message) :
  (m.entries.map Entry.id).Perm (m.givenIds ++ m.placeIds)
  := by
  rw [entries, List.map_filterMap, funext m.entry?_id, givenIds, placeIds]
  induction m.parts with
  | nil => exact List.Perm.refl _
  | cons p ps ih =>
    cases hgiven : p.givenId? with
    | some id =>
      have hplace : m.placeId? p = none := by simp [placeId?, hgiven]
      rw [List.filterMap_cons_some (by rw [hgiven]; rfl), List.filterMap_cons_some hgiven,
        List.filterMap_cons_none hplace]
      exact ih.cons id
    | none =>
      rw [List.filterMap_cons_none (f := PlacedPart.givenId?) hgiven]
      cases hplace : m.placeId? p with
      | none =>
        rw [List.filterMap_cons_none (by rw [hgiven, hplace]; rfl),
          List.filterMap_cons_none hplace]
        exact ih
      | some id =>
        rw [List.filterMap_cons_some (by rw [hgiven, hplace]; rfl),
          List.filterMap_cons_some hplace]
        exact (ih.cons id).trans List.perm_middle.symm

/-- A name by a place is that of a part of the message. -/
theorem eq_placeId_of_placeId? {m : Message} {p : PlacedPart} {id : String}
    (h : m.placeId? p = some id) :
  id = m.placeId p.index
  := by
  rw [placeId?] at h
  split at h
  · exact (Option.some.inj h).symm
  · cases h

/-- Within a message whose parts are at different places, no two names by places collide. -/
theorem IsPlaced.nodup_placeIds {m : Message} (h : m.IsPlaced) :
  m.placeIds.Nodup
  := by
  rw [placeIds, List.Nodup, List.pairwise_filterMap]
  apply (List.pairwise_map.mp h).imp
  intro p p' hne id hid id' hid' hsame
  rw [eq_placeId_of_placeId? hid, eq_placeId_of_placeId? hid'] at hsame
  exact hne (placeId_inj hsame).2

end Message

namespace Snapshot

/-- The ids that the calls of a snapshot give their entries. -/
def givenIds (s : Snapshot) : List String := s.messages.flatMap Message.givenIds

/-- The names by their places of the entries of a snapshot that have no other. -/
def placeIds (s : Snapshot) : List String := s.messages.flatMap Message.placeIds

theorem ids_perm (s : Snapshot) :
  (s.entries.map Entry.id).Perm (s.givenIds ++ s.placeIds)
  := by
  rw [entries, List.map_flatMap]
  apply (List.Perm.flatMap_left _ fun m _ => m.ids_perm).trans
  exact (List.flatMap_append_perm _ _ _).symm

/-- In a snapshot of messages with different ids, whose parts are at different places, no two
names by places collide. -/
theorem nodup_placeIds {s : Snapshot} (hids : (s.messages.map Message.id).Nodup)
    (hplaces : ∀ m ∈ s.messages, m.IsPlaced) :
  s.placeIds.Nodup
  := by
  rw [placeIds, List.nodup_flatMap]
  constructor
  · intro m hm
    apply (hplaces m hm).nodup_placeIds
  · apply (List.pairwise_map.mp hids).imp
    intro m m' hne id hid hid'
    obtain ⟨p, _, hplace⟩ := List.mem_filterMap.mp hid
    obtain ⟨p', _, hplace'⟩ := List.mem_filterMap.mp hid'
    rw [Message.eq_placeId_of_placeId? hplace] at hplace'
    exact hne (Message.placeId_inj (Message.eq_placeId_of_placeId? hplace')).1

/-- Whether no call was given an id that another call, or the place of another entry, has
too. -/
def IsWellNamed (s : Snapshot) : Prop :=
  s.givenIds.Nodup ∧ ∀ id ∈ s.givenIds, id ∉ s.placeIds

/-- No two entries of such a snapshot have the same name exactly if the calls were given names
well. -/
theorem nodup_ids_iff {s : Snapshot} (hids : (s.messages.map Message.id).Nodup)
    (hplaces : ∀ m ∈ s.messages, m.IsPlaced) :
  (s.entries.map Entry.id).Nodup ↔ s.IsWellNamed
  := by
  rw [s.ids_perm.nodup_iff, List.nodup_append', IsWellNamed]
  simp only [nodup_placeIds hids hplaces, true_and, List.Disjoint]

end Snapshot

end TaskConsole
