import TaskConsole.Proofs.Conversation.Sightings
import TaskConsole.Proofs.Session.Echo
import TaskConsole.Proofs.Task.Parts

/-!
# Parts over a session

A session has seen the names of all entries that it was told (`Session.mem_seen_run`).  So where
parts are named apart, an event adds the entries of those parts of its snapshot that no earlier one
had an entry for (`Session.parts_added_once`), whatever becomes of the parts in between.
-/

namespace TaskConsole.Session

open Entry
open scoped List

/-! ### Snapshots that are told -/

/-- The snapshots that the service tells in a turn. -/
def Turn.snapshots : Turn → List Snapshot
  | .take snapshot => [snapshot]
  | _ => []

/-- The snapshots that the service tells at an event. -/
def tells (s : Session) (_now : Nat) (e : Event) : List Snapshot := (s.turn e).snapshots

/-- What the service sends in a turn are the entries of what it tells. -/
theorem Turn.flatMap_entries (t : Turn) :
  t.snapshots.flatMap Snapshot.entries = t.entries
  := by
  cases t with
  | take snapshot => exact List.flatMap_singleton _ _
  | _ => rfl

/-- After a run the names of all entries that were told have been seen too. -/
theorem mem_seen_run (s : Session) (events : List (Nat × Event)) (id : String) :
  id ∈ (s.run events).seen
    ↔ id ∈ ((s.along tells events).flatMap Snapshot.entries).map Entry.id ++ s.seen
  := by
  induction events generalizing s with
  | nil => rfl
  | cons event events ih =>
    obtain ⟨now, e⟩ := event
    have hrun : s.run ((now, e) :: events) = (s.handle now e).1.run events := rfl
    rw [hrun, ih, along, tells, List.flatMap_append, Turn.flatMap_entries, List.map_append]
    simp only [List.mem_append, mem_seen_handle]
    rw [or_assoc, or_left_comm]

/-- What is told before an event of a run, and at it, is told in the run. -/
theorem along_tells_subset {s : Session} {before events : List (Nat × Event)} {now : Nat}
    {e : Event} (h : before ++ [(now, e)] <+: events) :
  s.along tells before ⊆ s.along tells events
    ∧ (s.run before).tells now e ⊆ s.along tells events
  := by
  obtain ⟨after, rfl⟩ := h
  rw [List.append_assoc, along_append]
  constructor
  · exact List.subset_append_left _ _
  · rw [List.singleton_append, along]
    exact fun _ ht => List.mem_append_right _ (List.mem_append_left _ ht)

/-! ### What a snapshot adds -/

/-- What is taken for echoes at an event takes its texts from the front of the echoes. -/
theorem absorbed_prefix (s : Session) (now : Nat) (e : Event) :
  trimmedTexts (s.absorbed now e) <+: s.echoes
  := by
  rw [absorbed]
  exact ⟨_, (echoes_foldl_met (s.turn e).entries s).symm⟩

/-- Where parts are named apart and the names told earlier were seen, what is fresh at an event are
the entries of the parts that were not sighted earlier at their places with the id they have now. -/
theorem fresh_offers {s : Session} {now : Nat} {e : Event} {told earlier : List Snapshot}
    (hnamed : NamedApart told) (hplaced : ∀ t ∈ told, t.IsPlaced) (hearlier : earlier ⊆ told)
    (hnow : s.tells now e ⊆ told)
    (hseen : ∀ id, id ∈ s.seen ↔ id ∈ (earlier.flatMap Snapshot.entries).map Entry.id) :
  fresh s.seen (s.turn e).entries
    = (((s.tells now e).flatMap Snapshot.sightings).filter fun x =>
        ∀ y ∈ earlier.flatMap Snapshot.sightings,
          y.place = x.place → y.given ≠ x.given).map Sighting.entry
  := by
  rw [tells] at hnow ⊢
  cases hturn : s.turn e with
  | take t =>
    rw [hturn] at hnow
    have ht : t ∈ told := hnow List.mem_cons_self
    rw [Turn.snapshots, List.flatMap_singleton]
    exact hnamed.fresh_entries ht (hplaced t ht) hearlier hseen
  | _ => rfl

section Start

variable (snapshot : Snapshot) (agent : Agent) (agents : List Agent) (theme : Theme)
  (viewport : Viewport)

/-- A session has seen the names of what it was told, the snapshot of the start included. -/
theorem mem_seen_start_run (events : List (Nat × Event)) (id : String) :
  let opened := start snapshot agent agents theme viewport
  id ∈ (opened.run events).seen
    ↔ id ∈ ((snapshot :: opened.along tells events).flatMap Snapshot.entries).map Entry.id
  := by
  intro opened
  obtain ⟨-, -, -, hseen⟩ := start_eq snapshot agent agents theme viewport
  rw [mem_seen_run, List.flatMap_cons, List.map_append, List.mem_append, List.mem_append,
    hseen, or_comm]

/-- A message is read, with the parts that can be read at the places of their elements, if all of
these can be handed on and the rest of it can be read, so another element in place of one changes
neither the parts nor the names and contents of the entries at the other places.  And where parts
are at different places and named apart in all snapshots of a run, an event adds from the service
the entries of those parts of its snapshot that no earlier snapshot had an entry for under the id
that they are given now, less those that are taken for echoes.  If parts never change what id they
give their entries, these are the parts that no earlier snapshot had an entry for at all. -/
theorem parts_added_once (events : List (Nat × Event)) :
  (∀ (level : Nat) (id role createdAt : Option Json) (items : List Json) (value : Json),
      value.fields? ["id", "role", "created_at", "parts"]
        = some [id, role, createdAt, some (.array items)] →
      let room := nestingLimit - (level + 1)
      Message.ofJson? level value
        = if ∀ item ∈ items, (item.keep? room).isSome
          then (Message.head? id role createdAt).map fun m => m.withItems room items
          else none)
    ∧ (∀ (m : Message) (room : Nat) (items : List Json),
      let read := m.withItems room items
      (∀ p, p ∈ read.parts
        ↔ ∃ item, items[p.index]? = some item ∧ Part.read? room item = some p.part)
      ∧ (read.parts.Pairwise fun p p' => p.index < p'.index)
      ∧ read.sightings.map Sighting.entry = read.entries
      ∧ ∀ (j : Nat) (item : Json),
        let read' := m.withItems room (items.set j item)
        (read'.parts.filter fun p => p.index ≠ j) = (read.parts.filter fun p => p.index ≠ j)
        ∧ (read'.sightings.filter fun x => x.index ≠ j)
          = read.sightings.filter fun x => x.index ≠ j)
    ∧ let opened := start snapshot agent agents theme viewport
      let told (events : List (Nat × Event)) := snapshot :: opened.along tells events
      let sighted (snapshots : List Snapshot) := snapshots.flatMap Snapshot.sightings
      (∀ t ∈ told events, t.IsPlaced) → NamedApart (told events) →
        opened.conversation = snapshot.entries
        ∧ ∀ before now e, before ++ [(now, e)] <+: events →
          let s := opened.run before
          let earlier := sighted (told before)
          let arriving := sighted (s.tells now e)
          let new := arriving.filter fun x => ∀ y ∈ earlier, y.place = x.place → y.given ≠ x.given
          (s.handle now e).1.conversation = s.conversation ++ (s.additions now e).map Prod.snd
          ∧ ofOrigin .service (s.additions now e)
            = (new.map Sighting.entry).filter (fun entry => entry ∉ s.absorbed now e)
          ∧ s.absorbed now e <+ new.map Sighting.entry
          ∧ trimmedTexts (s.absorbed now e) <+: s.echoes
          ∧ ((∀ x ∈ sighted (told events), ∀ y ∈ sighted (told events),
              x.place = y.place → x.given = y.given) →
            new = arriving.filter fun x => ∀ y ∈ earlier, y.place ≠ x.place)
  := by
  refine ⟨?_, ?_, ?_⟩
  · intro level id role createdAt items value hfields
    exact Message.ofJson?_of_fields hfields level
  · intro m room items read
    refine ⟨fun _ => Part.mem_placed_iff, Part.pairwise_placed, read.map_entry_sightings, ?_⟩
    intro j item read'
    have hset : (read'.parts.filter fun p => p.index ≠ j) = read.parts.filter fun p => p.index ≠ j :=
      Part.placed_set j item
    use hset
    rw [Message.filter_sightings, Message.filter_sightings, hset]
    rfl
  intro opened told sighted hplaced hnamed
  constructor
  · obtain ⟨-, hconversation, -⟩ := start_eq snapshot agent agents theme viewport
    have hopening : snapshot ∈ told events := List.mem_cons_self
    rw [hconversation, hnamed.firsts_entries hopening (hplaced _ hopening)]
  intro before now e hprefix s earlier arriving new
  obtain ⟨hbefore, hnow⟩ := along_tells_subset (s := opened) hprefix
  have hearlier : told before ⊆ told events := List.cons_subset_cons _ hbefore
  have hnow' : s.tells now e ⊆ told events := fun t ht => List.mem_cons_of_mem _ (hnow ht)
  have hfresh : fresh s.seen (s.turn e).entries = new.map Sighting.entry :=
    fresh_offers hnamed hplaced hearlier hnow'
      (mem_seen_start_run snapshot agent agents theme viewport before)
  constructor
  · rw [conversation_handle, additions_eq, List.map_map]
    congr 1
    exact (List.map_id _).symm
  constructor
  · rw [ofOrigin_service_additions, added_eq_fresh, hfresh]
    rfl
  constructor
  · rw [← hfresh]
    exact ofFate_sublist_fresh (by decide) _ _
  constructor
  · exact s.absorbed_prefix now e
  · intro hkept
    apply Sighting.filter_given_eq
    intro x hx y hy
    obtain ⟨t, ht, hxt⟩ := List.mem_flatMap.mp hx
    obtain ⟨t', ht', hyt⟩ := List.mem_flatMap.mp hy
    apply hkept
    · exact List.mem_flatMap.mpr ⟨t', hearlier ht', hyt⟩
    · exact List.mem_flatMap.mpr ⟨t, hnow' ht, hxt⟩

end Start

/-- A call that can be read only in the second of two snapshots is added there, and its neighbours
in the first. -/
theorem call_added_when_read :
  let opened := start { task := { id := "t1" } } ⟨"a", "A", "m"⟩ [] {} (.ofScreen 80 24)
  let text (s : String) : Json :=
    .object [(some "type", .text (some "text")), (some "text", .text (some s))]
  let call (input : Json) : Json := .object [(some "type", .text (some "tool_call")),
    (some "id", .text (some "c1")), (some "tool", .text (some "read_file")), (some "input", input)]
  let fetched (input : Json) : Nat × Event := (0, .outcome (.taskFetched "t1" (.ok
    { task := { id := "t1" }, messages := [Message.withItems ⟨"m1", .assistant, none, []⟩ 123
      [text "Looking.", call input, text "Done."]] })))
  let first := fetched (.object [])
  let second := fetched (.object [(some "path", .text (some "a.rs"))])
  let told := { task := { id := "t1" } } :: opened.along tells [first, second]
  (∀ t ∈ told, t.IsPlaced) ∧ NamedApart told
    ∧ ofOrigin .service ((opened.run [first]).additions second.1 second.2)
      = [⟨"c1", .call { id := "c1", invocation := .read "a.rs" }⟩]
    ∧ (opened.run [first, second]).conversation.map Entry.id = ["m1/0", "m1/2", "c1"]
  := by
  intro opened text call fetched first second told
  have hplaced : ∀ t ∈ told, t.IsPlaced := by decide +kernel
  have hnamed : NamedApart told := ⟨by decide +kernel, by decide +kernel⟩
  obtain ⟨-, -, hrun⟩ := parts_added_once { task := { id := "t1" } } ⟨"a", "A", "m"⟩ [] {}
    (.ofScreen 80 24) [first, second]
  obtain ⟨-, hsteps⟩ := hrun hplaced hnamed
  obtain ⟨-, hadded, -⟩ := hsteps [first] second.1 second.2 List.prefix_rfl
  refine ⟨hplaced, hnamed, hadded.trans ?_, by decide +kernel⟩
  decide +kernel

/-- A call that has an id of its own only after it was first read is added twice; a text that the
user sent is not added when the service tells it; and an element that no value can hold, here a
number beyond all bounds, leaves nothing of its message. -/
theorem parts_added_twice_or_never :
  let opened := start { task := { id := "t" } } ⟨"a", "A", "m"⟩ [] {} (.ofScreen 80 24)
  let fetched (role : Role) (parts : List PlacedPart) : Nat × Event := (0, .outcome
    (.taskFetched "t" (.ok { task := { id := "t" }, messages := [⟨"m", role, none, parts⟩] })))
  let call (id : String) : List PlacedPart := [⟨0, .call { id := id, invocation := .read "f" }⟩]
  let calling := [fetched .assistant (call ""), fetched .assistant [],
    fetched .assistant (call "c"), fetched .assistant (call "c")]
  let saying := [(0, .key (.insert 'x')), (0, .key .submit), fetched .user [⟨0, .text "x"⟩]]
  let message (item : Json) : Json := .object [(some "id", .text (some "m")),
    (some "role", .text (some "user")), (some "parts", .array [item])]
  NamedApart (opened.along tells calling)
    ∧ (opened.run calling).conversation.map Entry.id = ["m/0", "c"]
    ∧ (opened.along offers saying).map Entry.id = ["m/0"]
    ∧ (opened.run saying).conversation.map Entry.id = ["local-1"]
    ∧ Message.ofJson? 3 (message .null) = some ⟨"m", .user, none, []⟩
    ∧ Message.ofJson? 3 (message (.number none)) = none
  := by
  intro opened fetched call calling saying message
  exact ⟨⟨by decide +kernel, by decide +kernel⟩, by decide +kernel⟩

end TaskConsole.Session
