import TaskConsole.Proofs.Conversation.Collision

/-!
# Sightings of parts

A `Sighting` is an entry with the part that it was made for: the place of the part, and the id of
its own if it is a call that has one.  Where no two parts are given the same id, and none is given
the name of another's place (`NamedApart`), the name of an entry tells the place of its part and
whether it was named by it (`NamedApart.id_eq_iff`).  So what is fresh in a snapshot are the entries
of the parts that were not sighted so before (`NamedApart.fresh_entries`).
-/

namespace TaskConsole

/-- An entry with the part that it was made for: the id of the message, the place of the part in
it, and the id that the part gives its entry, if it does. -/
structure Sighting where
  message : String
  index : Nat
  given : Option String
  entry : Entry
deriving DecidableEq

/-- The place of a part among all messages. -/
def Sighting.place (x : Sighting) : String × Nat := (x.message, x.index)

namespace Message

/-- The sighting of a part of a message, if it has an entry. -/
def sighting? (m : Message) (p : PlacedPart) : Option Sighting :=
  ( m.entry? p).map fun e => { message := m.id, index := p.index, given := p.givenId?, entry := e }

/-- The sightings of the parts of a message, in their order. -/
def sightings (m : Message) : List Sighting := m.parts.filterMap m.sighting?

/-- The entries of a message are those that are sighted. -/
theorem map_entry_sightings (m : Message) :
  m.sightings.map Sighting.entry = m.entries
  := by
  rw [sightings, List.map_filterMap, entries]
  congr 1
  funext p
  rw [sighting?, Option.map_map]
  exact Option.map_id'

/-- A sighting is named by the id that the part gives its entry, or else by its place. -/
theorem id_of_mem_sightings {m : Message} {x : Sighting} (h : x ∈ m.sightings) :
  x.message = m.id ∧ x.entry.id = x.given.getD (m.placeId x.index)
  := by
  obtain ⟨p, -, hx⟩ := List.mem_filterMap.mp h
  obtain ⟨e, hentry, rfl⟩ := Option.map_eq_some_iff.mp hx
  use rfl
  have hid := m.entry?_id p
  rw [hentry] at hid
  cases hgiven : p.givenId? with
  | some id =>
    rw [hgiven] at hid
    exact Option.some.inj hid
  | none =>
    rw [hgiven] at hid
    exact eq_placeId_of_placeId? hid.symm

/-- The sightings away from a place are those of the parts away from it. -/
theorem filter_sightings (m : Message) (j : Nat) :
  (m.sightings.filter fun x => x.index ≠ j)
    = (m.parts.filter fun p => p.index ≠ j).filterMap m.sighting?
  := by
  rw [sightings, List.filter_filterMap, List.filterMap_filter]
  congr 1
  funext p
  cases hx : m.sighting? p with
  | none => simp
  | some x =>
    obtain ⟨e, -, rfl⟩ := Option.map_eq_some_iff.mp hx
    simp [Option.filter]

/-- The parts of a message are sighted at different places. -/
theorem IsPlaced.pairwise_sightings {m : Message} (h : m.IsPlaced) :
  m.sightings.Pairwise fun x y => x.place ≠ y.place
  := by
  rw [sightings, List.pairwise_filterMap]
  apply (List.pairwise_map.mp h).imp
  intro p p' hne x hx y hy hsame
  obtain ⟨_, -, rfl⟩ := Option.map_eq_some_iff.mp hx
  obtain ⟨_, -, rfl⟩ := Option.map_eq_some_iff.mp hy
  exact hne (congrArg Prod.snd hsame)

end Message

namespace Snapshot

/-- The sightings of the parts of a snapshot, in the order of its messages. -/
def sightings (s : Snapshot) : List Sighting := s.messages.flatMap Message.sightings

/-- The entries of a snapshot are those that are sighted. -/
theorem map_entry_sightings (s : Snapshot) :
  s.sightings.map Sighting.entry = s.entries
  := by
  rw [sightings, List.map_flatMap, entries, funext Message.map_entry_sightings]

/-- Whether the messages of a snapshot have different ids, and their parts different places. -/
def IsPlaced (s : Snapshot) : Prop :=
  (s.messages.map Message.id).Nodup ∧ ∀ m ∈ s.messages, m.IsPlaced

instance (s : Snapshot) : Decidable s.IsPlaced := inferInstanceAs (Decidable (_ ∧ _))

/-- The parts of such a snapshot are sighted at different places. -/
theorem IsPlaced.pairwise_sightings {s : Snapshot} (h : s.IsPlaced) :
  s.sightings.Pairwise fun x y => x.place ≠ y.place
  := by
  rw [sightings, List.pairwise_flatMap]
  constructor
  · intro m hm
    exact (h.2 m hm).pairwise_sightings
  · apply (List.pairwise_map.mp h.1).imp
    intro m m' hne x hx y hy hsame
    apply hne
    rw [← (Message.id_of_mem_sightings hx).1, ← (Message.id_of_mem_sightings hy).1]
    exact congrArg Prod.fst hsame

end Snapshot

/-- Where parts have the id that they were given before, those that are new with their ids are those
that are new at their places. -/
theorem Sighting.filter_given_eq {earlier arriving : List Sighting}
    (hkept : ∀ x ∈ arriving, ∀ y ∈ earlier, y.place = x.place → y.given = x.given) :
  (arriving.filter fun x => ∀ y ∈ earlier, y.place = x.place → y.given ≠ x.given)
    = arriving.filter fun x => ∀ y ∈ earlier, y.place ≠ x.place
  := by
  apply List.filter_congr
  intro x hx
  rw [decide_eq_decide]
  constructor
  · intro hnone y hy hplace
    exact hnone y hy hplace (hkept x hx y hy hplace)
  · intro hnone y hy hplace
    exact absurd hplace (hnone y hy)

/-- Whether parts are named apart in snapshots: no two places give their entries the same id, and
no id that is given is the name of an entry that has none. -/
structure NamedApart (told : List Snapshot) : Prop where
  given : ∀ x ∈ told.flatMap Snapshot.sightings, ∀ y ∈ told.flatMap Snapshot.sightings,
    ∀ id ∈ x.given, id ∈ y.given → x.place = y.place
  places : ∀ x ∈ told.flatMap Snapshot.sightings, ∀ y ∈ told.flatMap Snapshot.sightings,
    ∀ id ∈ x.given, y.given = none → y.entry.id ≠ id

namespace NamedApart

variable {told : List Snapshot} (h : NamedApart told)

include h

/-- An entry that was given an id has another name than one that was not. -/
theorem id_ne {x y : Sighting} (hx : x ∈ told.flatMap Snapshot.sightings)
    (hy : y ∈ told.flatMap Snapshot.sightings) {id : String} (hgiven : x.given = some id)
    (hnone : y.given = none) :
  x.entry.id ≠ y.entry.id
  := by
  obtain ⟨t, -, hxt⟩ := List.mem_flatMap.mp hx
  obtain ⟨m, -, hxm⟩ := List.mem_flatMap.mp hxt
  rw [(Message.id_of_mem_sightings hxm).2, hgiven, Option.getD_some]
  exact (h.places x hx y hy id hgiven hnone).symm

/-- The name of an entry tells the place of its part, and the id that it was given. -/
theorem id_eq_iff {x y : Sighting} (hx : x ∈ told.flatMap Snapshot.sightings)
    (hy : y ∈ told.flatMap Snapshot.sightings) :
  x.entry.id = y.entry.id ↔ x.place = y.place ∧ x.given = y.given
  := by
  obtain ⟨t, -, hxt⟩ := List.mem_flatMap.mp hx
  obtain ⟨m, -, hxm⟩ := List.mem_flatMap.mp hxt
  obtain ⟨t', -, hyt⟩ := List.mem_flatMap.mp hy
  obtain ⟨m', -, hym⟩ := List.mem_flatMap.mp hyt
  obtain ⟨hxid, hxname⟩ := Message.id_of_mem_sightings hxm
  obtain ⟨hyid, hyname⟩ := Message.id_of_mem_sightings hym
  cases hxg : x.given with
  | some id =>
    cases hyg : y.given with
    | some id' =>
      have hplace := h.given x hx y hy id hxg
      rw [hyg] at hplace hyname
      rw [hxg] at hxname
      rw [hxname, hyname, Option.getD_some, Option.getD_some, Option.some.injEq]
      constructor
      · rintro rfl
        exact ⟨hplace rfl, rfl⟩
      · exact And.right
    | none => exact iff_of_false (h.id_ne hx hy hxg hyg) fun hsame => nomatch hsame.2
  | none =>
    cases hyg : y.given with
    | some id =>
      exact iff_of_false (h.id_ne hy hx hyg hxg).symm fun hsame => nomatch hsame.2
    | none =>
      rw [hxg] at hxname
      rw [hyg] at hyname
      rw [hxname, hyname, Option.getD_none, Option.getD_none, and_iff_left rfl, Sighting.place,
        Sighting.place, hxid, hyid, Prod.mk.injEq]
      constructor
      · exact Message.placeId_inj
      · rintro ⟨hid, hindex⟩
        rw [Message.placeId, Message.placeId, hid, hindex]

/-- No two entries of a snapshot have the same name. -/
theorem firsts_entries {t : Snapshot} (ht : t ∈ told) (hplaced : t.IsPlaced) :
  Entry.firsts t.entries = t.entries
  := by
  rw [Entry.firsts_eq_self_iff, ← t.map_entry_sightings, List.map_map, List.Nodup,
    List.pairwise_map]
  apply hplaced.pairwise_sightings.imp_of_mem
  intro x y hx hy hne hsame
  have hx' := List.mem_flatMap.mpr ⟨t, ht, hx⟩
  have hy' := List.mem_flatMap.mpr ⟨t, ht, hy⟩
  exact hne ((h.id_eq_iff hx' hy').mp hsame).1

/-- What is fresh in a snapshot, where the names of the others were seen, are the entries of parts
that were not sighted at their places with the id that they are given now. -/
theorem fresh_entries {t : Snapshot} (ht : t ∈ told) (hplaced : t.IsPlaced)
    {earlier : List Snapshot} (hearlier : earlier ⊆ told) {seen : List String}
    (hseen : ∀ id, id ∈ seen ↔ id ∈ (earlier.flatMap Snapshot.entries).map Entry.id) :
  Entry.fresh seen t.entries
    = (t.sightings.filter fun x => ∀ y ∈ earlier.flatMap Snapshot.sightings,
        y.place = x.place → y.given ≠ x.given).map Sighting.entry
  := by
  have hmem : ∀ x ∈ t.sightings, x ∈ told.flatMap Snapshot.sightings := fun x hx =>
    List.mem_flatMap.mpr ⟨t, ht, hx⟩
  have hmem' : ∀ y ∈ earlier.flatMap Snapshot.sightings, y ∈ told.flatMap Snapshot.sightings := by
    intro y hy
    obtain ⟨t', ht', hyt⟩ := List.mem_flatMap.mp hy
    exact List.mem_flatMap.mpr ⟨t', hearlier ht', hyt⟩
  rw [Entry.fresh, h.firsts_entries ht hplaced, ← t.map_entry_sightings, List.filter_map]
  congr 1
  apply List.filter_congr
  intro x hx
  rw [Function.comp_apply, decide_eq_decide, hseen, ← funext Snapshot.map_entry_sightings,
    ← List.map_flatMap, List.map_map, List.mem_map]
  constructor
  · intro hnone y hy hplace hgiven
    apply hnone
    use y, hy
    exact (h.id_eq_iff (hmem' y hy) (hmem x hx)).mpr ⟨hplace, hgiven⟩
  · rintro hnone ⟨y, hy, hid⟩
    obtain ⟨hplace, hgiven⟩ := (h.id_eq_iff (hmem' y hy) (hmem x hx)).mp hid
    exact hnone y hy hplace hgiven

end NamedApart

end TaskConsole
