import TaskConsole.Proofs.Session.Reconciliation

/-!
# Settlement

Texts that are told settle texts that are waited for (`Session.settle`): a text that is
the oldest one waited for takes it away, and every other one is shown again.  That is
what the entries of a snapshot do to the echoes, provided that the texts of the user
among them have not been met and are trimmed (`Session.settle_of_unmet`).  Nothing is
shown again exactly if the texts are told in the order in which they are waited for
(`Session.settle_eq_iff`).
-/

namespace TaskConsole.Session

open Entry

/-! ### Texts -/

/-- What is still waited for after texts are told, and which of these are shown again. -/
def settle (awaited : List String) : List String → List String × List String
  | [] => (awaited, [])
  | text :: texts =>
    if awaited.head? = some text then settle awaited.tail texts
    else ((settle awaited texts).1, text :: (settle awaited texts).2)

/-- The oldest text waited for, when it is told, is no longer waited for. -/
theorem settle_cons_of_eq {awaited : List String} {text : String}
    (h : awaited.head? = some text) (texts : List String) :
  settle awaited (text :: texts) = settle awaited.tail texts
  := if_pos h

/-- A text that is told and not the oldest one waited for is shown again. -/
theorem settle_cons_of_ne {awaited : List String} {text : String}
    (h : awaited.head? ≠ some text) (texts : List String) :
  settle awaited (text :: texts)
    = ((settle awaited texts).1, text :: (settle awaited texts).2)
  := if_neg h

/-- What is told later settles what is still waited for. -/
theorem settle_append (awaited texts texts' : List String) :
  settle awaited (texts ++ texts')
    = ((settle (settle awaited texts).1 texts').1,
      (settle awaited texts).2 ++ (settle (settle awaited texts).1 texts').2)
  := by
  induction texts generalizing awaited with
  | nil => rfl
  | cons text texts ih =>
    rw [List.cons_append, settle, settle]
    split
    · apply ih
    · rw [ih, List.cons_append]

/-- What comes to be waited for stays behind the others, as long as no more texts are told
than were waited for without it. -/
theorem settle_append_awaited {awaited texts : List String} (h : texts.length ≤ awaited.length)
    (more : List String) :
  settle (awaited ++ more) texts
    = ((settle awaited texts).1 ++ more, (settle awaited texts).2)
  := by
  induction texts generalizing awaited with
  | nil => rfl
  | cons text texts ih =>
    cases awaited with
    | nil => exact (Nat.not_succ_le_zero _ h).elim
    | cons first awaited =>
      have hrest : texts.length ≤ awaited.length := Nat.le_of_succ_le_succ h
      by_cases hfirst : first = text
      · rw [hfirst, List.cons_append, settle_cons_of_eq rfl, settle_cons_of_eq rfl]
        apply ih hrest
      · have hhead : ∀ others : List String, (first :: others).head? ≠ some text :=
          fun _ h => hfirst (Option.some.inj h)
        have hlater : texts.length ≤ (first :: awaited).length := Nat.le_succ_of_le hrest
        rw [List.cons_append, settle_cons_of_ne (hhead _), settle_cons_of_ne (hhead _),
          ← List.cons_append, ih hlater]

/-- Nothing is shown again exactly if what is told are the first texts waited for. -/
theorem settle_eq_iff {awaited texts rest : List String} :
  settle awaited texts = (rest, []) ↔ awaited = texts ++ rest
  := by
  induction texts generalizing awaited with
  | nil => simp [settle]
  | cons text texts ih =>
    rw [settle]
    cases awaited with
    | nil => simp
    | cons first awaited =>
      by_cases h : first = text
      · simp [h, ih]
      · simp [h]

/-- Nothing is shown again exactly if what is told begins what is waited for. -/
theorem settle_snd_eq_nil_iff {awaited texts : List String} :
  (settle awaited texts).2 = [] ↔ texts <+: awaited
  := by
  constructor
  · intro h
    use (settle awaited texts).1
    symm
    apply settle_eq_iff.mp (Prod.ext rfl h)
  · rintro ⟨rest, rfl⟩
    rw [settle_eq_iff.mpr rfl]

/-- Every text that is told takes one away or is shown again. -/
theorem length_settle (awaited texts : List String) :
  (settle awaited texts).1.length + texts.length
    = awaited.length + (settle awaited texts).2.length
  := by
  induction texts generalizing awaited with
  | nil => rfl
  | cons text texts ih =>
    rw [settle]
    split
    · next hhead =>
      obtain ⟨rest, hrest⟩ := List.head?_eq_some_iff.mp hhead
      have hlength := ih rest
      simp only [hrest, List.tail_cons, List.length_cons]
      omega
    · have hlength := ih awaited
      simp only [List.length_cons]
      omega

/-! ### Entries -/

/-- Entries whose ids have all been seen change nothing. -/
theorem foldl_met_of_seen {s : Session} {es : List Entry} (h : ∀ e ∈ es, e.id ∈ s.seen) :
  es.foldl met s = s ∧ s.ofFate .added es = []
  := by
  constructor
  · rw [← foldl_meet_fst es s false, foldl_meet_of_seen h]
  · rw [added_eq_fresh, fresh_of_seen h]
    rfl

/-- What is added after entries is added to the session that took them. -/
theorem ofFate_append (f : Fate) (s : Session) (es es' : List Entry) :
  s.ofFate f (es ++ es') = s.ofFate f es ++ (es.foldl met s).ofFate f es'
  := by
  induction es generalizing s with
  | nil => rfl
  | cons e es ih =>
    rw [List.cons_append, ofFate, ofFate, List.foldl_cons, ih]
    split
    · rfl
    · rfl

/-- Entries are unmet by a session when the texts of the user among them have ids that
it has not seen and that no entry in front of them has. -/
structure Unmet (s : Session) (es : List Entry) : Prop where
  seen : ∀ e ∈ es, e.userText?.isSome → e.id ∉ s.seen
  apart : es.Pairwise fun e e' => e'.userText?.isSome → e.id ≠ e'.id

/-- Of entries that are unmet, those behind the first are unmet after it. -/
theorem Unmet.tail {s : Session} {e : Entry} {es : List Entry} (h : s.Unmet (e :: es)) :
  (s.met e).Unmet es
  := by
  obtain ⟨hseen, hapart⟩ := h
  rw [List.pairwise_cons] at hapart
  constructor
  · intro other hother htext hmem
    rcases List.mem_cons.mp ((mem_seen_foldl_met [e] s other.id).mp hmem) with hid | hmem
    · apply hapart.1 other hother htext hid.symm
    · apply hseen other (List.mem_cons_of_mem _ hother) htext hmem
  · apply hapart.2

/-- An entry settles the echoes with its text, if it is a new one of the user. -/
theorem settle_met
    {s : Session} {e : Entry} (hseen : e.userText?.isSome → e.id ∉ s.seen)
    (htrim : ∀ text, e.userText? = some text → Text.trim text = text) :
  settle s.echoes (userTexts [e]) = ((s.met e).echoes, userTexts (s.ofFate .added [e]))
  := by
  cases htext : e.userText? with
  | none =>
    rw [userTexts, List.filterMap_cons_none htext, ofFate]
    cases hfate : s.fate e with
    | known =>
      rw [met_of_known hfate]
      rfl
    | echoed =>
      obtain ⟨text, hsome, -⟩ := exists_text_of_isEcho (fate_eq_echoed_iff.mp hfate).2
      rw [htext] at hsome
      cases hsome
    | added =>
      rw [met_of_added hfate, if_pos rfl, userTexts, List.filterMap_cons_none htext]
      rfl
  | some text =>
    have hnew : e.id ∉ s.seen := hseen (by rw [htext]; rfl)
    rw [userTexts, List.filterMap_cons_some htext, List.filterMap_nil, ofFate, settle, settle]
    cases hfate : s.fate e with
    | known => exact (hnew (fate_eq_known_iff.mp hfate)).elim
    | echoed =>
      have hecho := (fate_eq_echoed_iff.mp hfate).2
      rw [isEcho, htext] at hecho
      rw [if_pos (htrim text htext ▸ of_decide_eq_true hecho), met_of_echoed hfate]
      rfl
    | added =>
      have hecho := (fate_eq_added_iff.mp hfate).2
      rw [isEcho, htext] at hecho
      rw [if_neg (fun hhead => hecho (decide_eq_true ((htrim text htext).symm ▸ hhead))),
        met_of_added hfate, if_pos rfl, userTexts, List.filterMap_cons_some htext]
      rfl

/-- Entries that are unmet settle the echoes with their texts of the user. -/
theorem settle_of_unmet
    {s : Session} {es : List Entry} (h : s.Unmet es)
    (htrim : ∀ text ∈ userTexts es, Text.trim text = text) :
  settle s.echoes (userTexts es) = ((es.foldl met s).echoes, userTexts (s.ofFate .added es))
  := by
  induction es generalizing s with
  | nil => rfl
  | cons e es ih =>
    have htexts : userTexts (e :: es) = userTexts [e] ++ userTexts es :=
      userTexts_append [e] es
    have hfirst : settle s.echoes (userTexts [e])
        = ((s.met e).echoes, userTexts (s.ofFate .added [e])) := by
      apply settle_met (h.seen e List.mem_cons_self)
      intro text htext
      apply htrim text
      apply List.mem_filterMap.mpr ⟨e, List.mem_cons_self, htext⟩
    have hrest : settle (s.met e).echoes (userTexts es)
        = ((es.foldl met (s.met e)).echoes, userTexts ((s.met e).ofFate .added es)) := by
      apply ih h.tail
      intro text htext
      apply htrim text
      rw [htexts]
      apply List.mem_append_right _ htext
    have hadded : s.ofFate .added (e :: es)
        = s.ofFate .added [e] ++ (s.met e).ofFate .added es :=
      ofFate_append .added s [e] es
    rw [htexts, settle_append, hfirst, hrest, hadded, userTexts_append, List.foldl_cons]

end TaskConsole.Session
