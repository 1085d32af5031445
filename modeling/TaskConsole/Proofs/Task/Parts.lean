import Mathlib.Data.List.Sort
import TaskConsole.Task.Wire

/-!
# Parts of a message that is read

Every element of the array of parts is read on its own (`Part.read?`), and the parts of a message
are those that can be read, each at the place of its element (`Message.ofJson?_of_fields`,
`Part.mem_placed_iff`).  So another element in place of one changes nothing at the other places
(`Part.placed_set`).
-/

namespace TaskConsole

namespace Part

/-- The part that an element of an array is, nested in the given room, if it can be read. -/
def read? (room : Nat) (item : Json) : Option Part := (item.keep? room).bind ofJson?

/-- The parts among the elements of an array, each with its place. -/
def placed (room : Nat) (items : List Json) : List PlacedPart :=
  items.zipIdx.filterMap fun item =>
    (read? room item.1).map fun part => { index := item.2, part := part }

/-- What can be handed on together can be handed on one by one. -/
theorem map_keep?_of_mapM {room : Nat} {items kept : List Json}
    (h : items.mapM (Json.keep? room) = some kept) :
  items.map (Json.keep? room) = kept.map some
  := by
  induction items generalizing kept with
  | nil =>
    rw [← Option.some.inj h]
    rfl
  | cons item items ih =>
    simp only [List.mapM_cons, Option.bind_eq_bind, Option.bind_eq_some_iff, Option.pure_def,
      Option.some.injEq] at h
    obtain ⟨first, hfirst, rest, hrest, rfl⟩ := h
    rw [List.map_cons, List.map_cons, hfirst, ih hrest]

/-- Elements that can all be handed on can be so together. -/
theorem exists_mapM_keep? {room : Nat} {items : List Json}
    (h : ∀ item ∈ items, (item.keep? room).isSome) :
  ∃ kept, items.mapM (Json.keep? room) = some kept
  := by
  induction items with
  | nil => exact ⟨[], rfl⟩
  | cons item items ih =>
    obtain ⟨hitem, hitems⟩ := List.forall_mem_cons.mp h
    obtain ⟨first, hfirst⟩ := Option.isSome_iff_exists.mp hitem
    obtain ⟨rest, hrest⟩ := ih hitems
    use first :: rest
    simp only [List.mapM_cons, hfirst, hrest]
    rfl

/-- The parts of an array whose elements can all be handed on are those among them; otherwise the
array cannot be read. -/
theorem listOfJson?_array (level : Nat) (items : List Json) :
  listOfJson? level (.array items)
    = if ∀ item ∈ items, (item.keep? (nestingLimit - level)).isSome
      then some (placed (nestingLimit - level) items) else none
  := by
  generalize hroom : nestingLimit - level = room
  have hread : listOfJson? level (.array items)
      = (items.mapM (Json.keep? room)).map ofItems := by
    rw [← hroom, listOfJson?, Option.map_eq_bind]
    rfl
  rw [hread]
  split
  · next hall =>
    obtain ⟨kept, hkept⟩ := exists_mapM_keep? hall
    have hplaced : ofItems kept = ((kept.map some).zipIdx).filterMap fun item =>
        (item.1.bind ofJson?).map fun part => { index := item.2, part := part } := by
      rw [List.zipIdx_map, List.filterMap_map]
      rfl
    rw [hkept, Option.map_some, hplaced, ← map_keep?_of_mapM hkept, List.zipIdx_map,
      List.filterMap_map]
    rfl
  · next hsome =>
    rw [Option.map_eq_none_iff]
    by_contra hread
    obtain ⟨kept, hkept⟩ := Option.ne_none_iff_exists'.mp hread
    apply hsome
    intro item hitem
    have hmem : item.keep? room ∈ kept.map some := by
      rw [← map_keep?_of_mapM hkept]
      exact List.mem_map_of_mem hitem
    obtain ⟨value, -, hvalue⟩ := List.mem_map.mp hmem
    rw [← hvalue]
    rfl

section Placed

variable {room : Nat} {items : List Json}

/-- A part is at a place exactly if the element there is read as that part. -/
theorem mem_placed_iff {p : PlacedPart} :
  p ∈ placed room items ↔ ∃ item, items[p.index]? = some item ∧ read? room item = some p.part
  := by
  obtain ⟨index, part⟩ := p
  rw [placed, List.mem_filterMap]
  constructor
  · rintro ⟨⟨item, place⟩, hmem, hread⟩
    obtain ⟨_, hpart, heq⟩ := Option.map_eq_some_iff.mp hread
    obtain ⟨rfl, rfl⟩ := PlacedPart.mk.inj heq
    exact ⟨item, List.mem_zipIdx_iff_getElem?.mp hmem, hpart⟩
  · rintro ⟨item, hitem, hpart⟩
    use (item, index), List.mem_zipIdx_iff_getElem?.mpr hitem
    rw [hpart]
    rfl

/-- The parts are in the order of their places. -/
theorem pairwise_placed :
  (placed room items).Pairwise fun p p' => p.index < p'.index
  := by
  have hplaces : items.zipIdx.Pairwise fun item item' => item.2 < item'.2 := by
    rw [← List.pairwise_map (f := Prod.snd), List.zipIdx_map_snd]
    exact List.pairwise_lt_range'
  rw [placed, List.pairwise_filterMap]
  apply hplaces.imp
  intro item item' hlt p hp p' hp'
  obtain ⟨_, _, rfl⟩ := Option.map_eq_some_iff.mp hp
  obtain ⟨_, _, rfl⟩ := Option.map_eq_some_iff.mp hp'
  exact hlt

/-- Another element in place of one changes nothing at the other places. -/
theorem placed_set (j : Nat) (item : Json) :
  (placed room (items.set j item)).filter (fun p => p.index ≠ j)
    = (placed room items).filter fun p => p.index ≠ j
  := by
  have : Std.Irrefl fun p p' : PlacedPart => p.index < p'.index :=
    ⟨fun _ => Nat.lt_irrefl _⟩
  have : Std.Antisymm fun p p' : PlacedPart => p.index < p'.index :=
    ⟨fun _ _ h h' => absurd h' (Nat.lt_asymm h)⟩
  apply List.Pairwise.eq_of_mem_iff (pairwise_placed.filter _) (pairwise_placed.filter _)
  intro p
  rw [List.mem_filter, List.mem_filter, mem_placed_iff, mem_placed_iff]
  apply and_congr_left
  intro hplace
  rw [List.getElem?_set_ne (of_decide_eq_true hplace).symm]

end Placed

end Part

/-- What a message is but for its parts. -/
def Message.head? (id role createdAt : Option Json) : Option Message := do
  return {
    id := ← Json.required Json.asText? id
    role := ← Json.required Role.ofJson? role
    createdAt := ← Json.orElse none (fun v => (Timestamp.ofJson? v).map some) createdAt }

/-- The message with the parts among elements that are nested in the given room. -/
def Message.withItems (m : Message) (room : Nat) (items : List Json) : Message :=
  { m with parts := Part.placed room items }

/-- A message is read if all elements of the array of its parts can be handed on, and what it is
but for these can be read; then its parts are those among the elements. -/
theorem Message.ofJson?_of_fields {value : Json} {id role createdAt : Option Json}
    {items : List Json}
    (hfields : value.fields? ["id", "role", "created_at", "parts"]
      = some [id, role, createdAt, some (.array items)]) (level : Nat) :
  ofJson? level value
    = if ∀ item ∈ items, (item.keep? (nestingLimit - (level + 1))).isSome
      then (head? id role createdAt).map fun m => m.withItems (nestingLimit - (level + 1)) items
      else none
  := by
  rw [ofJson?, hfields, head?]
  have hparts : Json.orElse [] (Part.listOfJson? (level + 1)) (some (.array items))
      = Part.listOfJson? (level + 1) (.array items) := rfl
  simp only [Option.bind_eq_bind, Option.bind_some, Option.pure_def, hparts,
    Part.listOfJson?_array]
  cases Json.required Json.asText? id with
  | none => simp
  | some id =>
    cases Json.required Role.ofJson? role with
    | none => simp
    | some role =>
      cases Json.orElse none (fun v => (Timestamp.ofJson? v).map some) createdAt with
      | none => simp
      | some createdAt =>
        split
        · rfl
        · rfl

end TaskConsole
