import Mathlib.Data.List.Basic
import TaskConsole.Conversation.Entry

/-!
# Occurrences of entries

The first occurrences by id in a list of entries (`firsts`), those of them with an id
that has not been seen before (`fresh`), and the texts of the user among entries
(`userTexts`).
-/

namespace TaskConsole.Entry

/-- The entries that no entry of the same id stands in front of, in order. -/
def firsts : List Entry → List Entry
  | [] => []
  | e :: es => e :: (firsts es).filter fun other => other.id ≠ e.id

theorem firsts_sublist (es : List Entry) :
  (firsts es).Sublist es
  := by
  induction es with
  | nil => exact List.Sublist.refl []
  | cons e es ih => exact (List.filter_sublist.trans ih).cons_cons e

theorem mem_of_mem_firsts {es : List Entry} {e : Entry} (h : e ∈ firsts es) :
  e ∈ es
  := (firsts_sublist es).subset h

/-- No id occurs for a first time twice. -/
theorem nodup_firsts (es : List Entry) :
  ((firsts es).map Entry.id).Nodup
  := by
  induction es with
  | nil => apply List.nodup_nil
  | cons e es ih =>
    rw [firsts, List.map_cons, List.nodup_cons]
    constructor
    · intro h
      obtain ⟨other, hother, hid⟩ := List.mem_map.mp h
      simp [hid] at hother
    · apply ih.sublist (List.filter_sublist.map _)

/-- All entries are first occurrences exactly if no id occurs twice. -/
theorem firsts_eq_self_iff (es : List Entry) :
  firsts es = es ↔ (es.map Entry.id).Nodup
  := by
  constructor
  · intro h
    rw [← h]
    apply nodup_firsts
  · intro h
    induction es with
    | nil => rfl
    | cons e es ih =>
      rw [List.map_cons, List.nodup_cons] at h
      rw [firsts, ih h.2, List.filter_eq_self.mpr]
      intro other hother
      rw [decide_eq_true_iff]
      intro hid
      apply h.1 (hid ▸ List.mem_map_of_mem hother)

/-- The first occurrences of ids that have not been seen. -/
def fresh (seen : List String) (es : List Entry) : List Entry :=
  (firsts es).filter fun e => e.id ∉ seen

theorem mem_fresh {seen : List String} {es : List Entry} {e : Entry} (h : e ∈ fresh seen es) :
  e ∈ es ∧ e.id ∉ seen
  := by
  obtain ⟨hfirst, hseen⟩ := List.mem_filter.mp h
  exact ⟨mem_of_mem_firsts hfirst, of_decide_eq_true hseen⟩

/-- Entries of ids that have all been seen add nothing. -/
theorem fresh_of_seen {seen : List String} {es : List Entry} (h : ∀ e ∈ es, e.id ∈ seen) :
  fresh seen es = []
  := by
  rw [List.eq_nil_iff_forall_not_mem]
  intro e he
  obtain ⟨hmem, hseen⟩ := mem_fresh he
  apply hseen (h e hmem)

/-- Only which ids were seen matters. -/
theorem fresh_congr {seen seen' : List String} (h : ∀ id, id ∈ seen ↔ id ∈ seen')
    (es : List Entry) :
  fresh seen es = fresh seen' es
  := by
  simp only [fresh, h]

/-- An entry of an id that was seen adds nothing. -/
theorem fresh_cons_of_mem {seen : List String} {e : Entry} (h : e.id ∈ seen) (es : List Entry) :
  fresh seen (e :: es) = fresh seen es
  := by
  rw [fresh, firsts, List.filter_cons_of_neg (by simpa using h), List.filter_filter, fresh]
  apply List.filter_congr
  intro other _
  by_cases hother : other.id ∈ seen
  · simp [hother]
  · have hne : other.id ≠ e.id := fun hid => hother (hid ▸ h)
    simp [hother, hne]

/-- An entry of an id that was not seen comes first, and its id counts as seen. -/
theorem fresh_cons_of_not_mem {seen : List String} {e : Entry} (h : e.id ∉ seen)
    (es : List Entry) :
  fresh seen (e :: es) = e :: fresh (e.id :: seen) es
  := by
  rw [fresh, firsts, List.filter_cons_of_pos (by simpa using h), List.filter_filter, fresh]
  congr 1
  apply List.filter_congr
  intro other _
  simp [Bool.and_comm]

/-- The second of two lists adds what the first has not shown. -/
theorem fresh_append (seen : List String) (es es' : List Entry) :
  fresh seen (es ++ es') = fresh seen es ++ fresh (es.map Entry.id ++ seen) es'
  := by
  induction es generalizing seen with
  | nil => rfl
  | cons e es ih =>
    rw [List.cons_append]
    by_cases h : e.id ∈ seen
    · rw [fresh_cons_of_mem h, fresh_cons_of_mem h, ih]
      congr 1
      apply fresh_congr
      intro id
      simp only [List.mem_append, List.map_cons, List.mem_cons]
      grind
    · rw [fresh_cons_of_not_mem h, fresh_cons_of_not_mem h, ih, List.cons_append]
      congr 2
      apply fresh_congr
      intro id
      simp only [List.mem_append, List.map_cons, List.mem_cons]
      grind

/-- Where nothing was seen, all first occurrences are fresh. -/
theorem fresh_nil_seen (es : List Entry) :
  fresh [] es = firsts es
  := by
  rw [fresh, List.filter_eq_self]
  intro e _
  simp

/-- The text of an entry, if it is one of the user. -/
def userText? (e : Entry) : Option String :=
  match e.kind with
  | .userText text => some text
  | _ => none

theorem kind_of_userText? {e : Entry} {text : String} (h : e.userText? = some text) :
  e.kind = .userText text
  := by
  rw [userText?] at h
  split at h
  · next hkind => rw [hkind, Option.some.inj h]
  · cases h

/-- The texts of the user among entries, in order. -/
def userTexts (es : List Entry) : List String := es.filterMap userText?

theorem userTexts_append (es es' : List Entry) :
  userTexts (es ++ es') = userTexts es ++ userTexts es'
  := List.filterMap_append

end TaskConsole.Entry
