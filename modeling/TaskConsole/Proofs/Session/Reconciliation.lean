import TaskConsole.Proofs.Conversation.Occurrence
import TaskConsole.Session.Step

/-!
# Reconciliation

An entry that the service sends has a `Fate`: its id is known, or it is taken for an
echo, or it is added to the conversation.  `Session.ofFate` are the entries of a
snapshot that meet a fate.  What is added is what is fresh, less what is taken for an
echo (`Session.added_eq_fresh`).
-/

namespace TaskConsole.Session

open Entry

/-! ### One entry -/

/-- What becomes of an entry that the service sends. -/
inductive Fate where
  /-- Its id has been seen. -/
  | known
  /-- It is taken for the oldest echo. -/
  | echoed
  /-- It is added to the conversation. -/
  | added
deriving DecidableEq

/-- Whether an entry is a text of the user that is, apart from blanks at its ends, the
oldest echo. -/
def isEcho (s : Session) (e : Entry) : Bool :=
  match e.userText? with
  | some text => s.echoes.head? = some (Text.trim text)
  | none => false

/-- What becomes of an entry that the service sends to a session. -/
def fate (s : Session) (e : Entry) : Fate :=
  if e.id ∈ s.seen then .known else if s.isEcho e then .echoed else .added

/-- The session after an entry of the service. -/
def met (s : Session) (e : Entry) : Session := (meet (s, false) e).1

theorem fate_eq_known_iff {s : Session} {e : Entry} :
  s.fate e = .known ↔ e.id ∈ s.seen
  := by
  rw [fate]
  split
  · simp [*]
  · split <;> simp [*]

theorem fate_eq_echoed_iff {s : Session} {e : Entry} :
  s.fate e = .echoed ↔ e.id ∉ s.seen ∧ s.isEcho e
  := by
  rw [fate]
  split
  · simp [*]
  · split <;> simp [*]

theorem fate_eq_added_iff {s : Session} {e : Entry} :
  s.fate e = .added ↔ e.id ∉ s.seen ∧ ¬ s.isEcho e
  := by
  rw [fate]
  split
  · simp [*]
  · split <;> simp [*]

/-- An entry is taken for an echo only if it is a text of the user that the oldest echo
begins the list of echoes with. -/
theorem exists_text_of_isEcho {s : Session} {e : Entry} (h : s.isEcho e) :
  ∃ text, e.userText? = some text ∧ s.echoes = Text.trim text :: s.echoes.tail
  := by
  rw [isEcho] at h
  split at h
  · next text htext =>
    have hhead : s.echoes.head? = some (Text.trim text) := by simpa using h
    use text, htext
    cases hechoes : s.echoes with
    | nil => simp [hechoes] at hhead
    | cons echo rest =>
      rw [hechoes, List.head?_cons, Option.some.injEq] at hhead
      rw [hhead, List.tail_cons]
  · exact (Bool.false_ne_true h).elim

/-- What is taken for an echo takes the oldest one away; everything else is added. -/
theorem receive_eq (s : Session) (e : Entry) :
  s.receive e = if s.isEcho e then { s with echoes := s.echoes.tail } else s.append e
  := by
  obtain ⟨id, kind⟩ := e
  cases kind with
  | userText text =>
    rcases hechoes : s.echoes with _ | ⟨echo, rest⟩
    · simp [receive, absorb?, isEcho, userText?, hechoes]
    · by_cases h : echo = Text.trim text <;>
        simp [receive, absorb?, isEcho, userText?, hechoes, h]
  | _ => rfl

/-- An entry that is known changes nothing. -/
theorem met_of_known {s : Session} {e : Entry} (h : s.fate e = .known) :
  s.met e = s
  := by
  simp only [met, meet, if_pos (fate_eq_known_iff.mp h)]

/-- An entry that is taken for an echo is seen, and takes the oldest echo away. -/
theorem met_of_echoed {s : Session} {e : Entry} (h : s.fate e = .echoed) :
  s.met e = { s with seen := e.id :: s.seen, echoes := s.echoes.tail }
  := by
  obtain ⟨hseen, hecho⟩ := fate_eq_echoed_iff.mp h
  have hecho' : isEcho { s with seen := e.id :: s.seen } e := hecho
  simp only [met, meet, if_neg hseen, receive_eq, if_pos hecho']

/-- An entry that is added is seen. -/
theorem met_of_added {s : Session} {e : Entry} (h : s.fate e = .added) :
  s.met e = { s with seen := e.id :: s.seen }.append e
  := by
  obtain ⟨hseen, hecho⟩ := fate_eq_added_iff.mp h
  have hecho' : ¬ isEcho { s with seen := e.id :: s.seen } e := hecho
  simp only [met, meet, if_neg hseen, receive_eq, if_neg hecho']

/-! ### The entries of a snapshot -/

/-- The entries of a list that meet a fate when they are taken in order. -/
def ofFate (f : Fate) (s : Session) : List Entry → List Entry
  | [] => []
  | e :: es => if s.fate e = f then e :: ofFate f (s.met e) es else ofFate f (s.met e) es

theorem foldl_meet_fst (es : List Entry) (s : Session) (arrived : Bool) :
  (es.foldl meet (s, arrived)).1 = es.foldl met s
  := by
  induction es generalizing s arrived with
  | nil => rfl
  | cons e es ih =>
    have h : (meet (s, arrived) e).1 = s.met e := by
      simp only [met, meet]
      split <;> rfl
    rw [List.foldl_cons, List.foldl_cons, ← h]
    apply ih

/-- Entries whose ids have all been seen bring nothing new. -/
theorem foldl_meet_of_seen
    {s : Session} {es : List Entry} (h : ∀ e ∈ es, e.id ∈ s.seen) (arrived : Bool) :
  es.foldl meet (s, arrived) = (s, arrived)
  := by
  induction es with
  | nil => rfl
  | cons e es ih =>
    have hmeet : meet (s, arrived) e = (s, arrived) := if_pos (h e List.mem_cons_self)
    rw [List.foldl_cons, hmeet]
    apply ih
    intro other hother
    apply h other (List.mem_cons_of_mem _ hother)

/-- Reconciling takes the entries in order, and may end the waiting. -/
theorem exists_reconcile_eq (s : Session) (es : List Entry) :
  ∃ waiting, s.reconcile es = { es.foldl met s with waiting := waiting }
  := by
  rw [← foldl_meet_fst es s false, reconcile]
  generalize es.foldl meet (s, false) = state
  obtain ⟨s', arrived⟩ := state
  cases arrived with
  | true => exact ⟨false, rfl⟩
  | false => exact ⟨s'.waiting, rfl⟩

/-- The entries of a snapshot are added to the end of the conversation. -/
theorem conversation_foldl_met (es : List Entry) (s : Session) :
  (es.foldl met s).conversation = s.conversation ++ s.ofFate .added es
  := by
  induction es generalizing s with
  | nil => rw [List.foldl_nil, ofFate, List.append_nil]
  | cons e es ih =>
    rw [List.foldl_cons, ih, ofFate]
    cases h : s.fate e with
    | known => rw [met_of_known h, if_neg (by decide)]
    | echoed => rw [met_of_echoed h, if_neg (by decide)]
    | added => rw [met_of_added h, if_pos rfl, append, List.append_assoc, List.singleton_append]

/-- What is taken for echoes takes its texts from the front of the echoes. -/
theorem echoes_foldl_met (es : List Entry) (s : Session) :
  s.echoes = (userTexts (s.ofFate .echoed es)).map Text.trim ++ (es.foldl met s).echoes
  := by
  induction es generalizing s with
  | nil => rfl
  | cons e es ih =>
    have hrest := ih (s.met e)
    rw [List.foldl_cons, ofFate]
    cases h : s.fate e with
    | known =>
      rw [met_of_known h] at hrest ⊢
      rw [if_neg (by decide)]
      exact hrest
    | echoed =>
      obtain ⟨text, htext, hechoes⟩ := exists_text_of_isEcho (fate_eq_echoed_iff.mp h).2
      have htail : (s.met e).echoes = s.echoes.tail := by rw [met_of_echoed h]
      rw [if_pos rfl, userTexts, List.filterMap_cons_some htext, List.map_cons,
        List.cons_append, hechoes, ← htail]
      congr 1
    | added =>
      have hechoes : (s.met e).echoes = s.echoes := by rw [met_of_added h]; rfl
      rw [if_neg (by decide), ← hechoes]
      exact hrest

/-- The ids that are seen after entries are those from before and those of the entries. -/
theorem mem_seen_foldl_met (es : List Entry) (s : Session) (id : String) :
  id ∈ (es.foldl met s).seen ↔ id ∈ es.map Entry.id ++ s.seen
  := by
  induction es generalizing s with
  | nil => rfl
  | cons e es ih =>
    rw [List.foldl_cons, ih]
    simp only [List.mem_append, List.map_cons, List.mem_cons]
    cases h : s.fate e with
    | known =>
      have hseen := fate_eq_known_iff.mp h
      rw [met_of_known h]
      grind
    | echoed =>
      rw [met_of_echoed h]
      grind
    | added =>
      rw [met_of_added h]
      simp only [append, List.mem_cons]
      grind

/-- What becomes of an entry that is not known is decided where its id is first met. -/
theorem mem_of_mem_ofFate
    {f : Fate} (hf : f ≠ .known) {s : Session} {es : List Entry} {e : Entry}
    (h : e ∈ s.ofFate f es) :
  e ∈ es ∧ e.id ∉ s.seen
  := by
  induction es generalizing s with
  | nil => exact (List.not_mem_nil h).elim
  | cons a es ih =>
    have hrest : e ∈ (s.met a).ofFate f es → e ∈ a :: es ∧ e.id ∉ s.seen := by
      intro hmem
      obtain ⟨hes, hseen⟩ := ih hmem
      have hmet := mem_seen_foldl_met [a] s e.id
      rw [List.foldl_cons, List.foldl_nil] at hmet
      rw [hmet, List.mem_append, not_or] at hseen
      exact ⟨List.mem_cons_of_mem _ hes, hseen.2⟩
    rw [ofFate] at h
    split at h
    · next hfate =>
      rcases List.mem_cons.mp h with rfl | h
      · use List.mem_cons_self
        intro hseen
        apply hf (hfate.symm.trans (fate_eq_known_iff.mpr hseen))
      · apply hrest h
    · apply hrest h

/-- Of what is fresh in a snapshot, what is not taken for an echo is added. -/
theorem added_eq_fresh (s : Session) (es : List Entry) :
  s.ofFate .added es = (fresh s.seen es).filter fun e => e ∉ s.ofFate .echoed es
  := by
  induction es generalizing s with
  | nil => rfl
  | cons e es ih =>
    rw [ofFate, ofFate]
    cases h : s.fate e with
    | known =>
      rw [met_of_known h, if_neg (by decide), if_neg (by decide), ih,
        fresh_cons_of_mem (fate_eq_known_iff.mp h)]
    | echoed =>
      have hseen : (s.met e).seen = e.id :: s.seen := by rw [met_of_echoed h]
      rw [if_neg (by decide), if_pos rfl, ih, hseen,
        fresh_cons_of_not_mem (fate_eq_echoed_iff.mp h).1,
        List.filter_cons_of_neg (by simp)]
      -- the entries behind have other ids, so none of them is this one
      apply List.filter_congr
      intro other hother
      have hne : other ≠ e := by
        rintro rfl
        apply (mem_fresh hother).2 List.mem_cons_self
      simp [hne]
    | added =>
      have hseen : (s.met e).seen = e.id :: s.seen := by rw [met_of_added h]; rfl
      have hnot : e ∉ (s.met e).ofFate .echoed es := by
        intro hmem
        apply (mem_of_mem_ofFate (f := .echoed) (by decide) hmem).2
        rw [hseen]
        apply List.mem_cons_self
      rw [if_pos rfl, if_neg (by decide), ih, hseen,
        fresh_cons_of_not_mem (fate_eq_added_iff.mp h).1,
        List.filter_cons_of_pos (by simpa using hnot)]

/-- Only texts of the user are taken for echoes. -/
theorem exists_userText_of_echoed
    {s : Session} {es : List Entry} {e : Entry} (h : e ∈ s.ofFate .echoed es) :
  ∃ text, e.kind = .userText text
  := by
  induction es generalizing s with
  | nil => exact (List.not_mem_nil h).elim
  | cons a es ih =>
    rw [ofFate] at h
    split at h
    · next hfate =>
      rcases List.mem_cons.mp h with rfl | h
      · obtain ⟨text, htext, _⟩ := exists_text_of_isEcho (fate_eq_echoed_iff.mp hfate).2
        use text
        apply kind_of_userText? htext
      · apply ih h
    · apply ih h

/-- The task makes no difference to the entries of a snapshot, nor they to it. -/
theorem foldl_met_task (es : List Entry) (s : Session) (task : Task) :
  es.foldl met { s with task := task } = { es.foldl met s with task := task }
  := by
  induction es generalizing s with
  | nil => rfl
  | cons e es ih =>
    have hfate : fate { s with task := task } e = s.fate e := rfl
    have hmet : met { s with task := task } e = { s.met e with task := task } := by
      cases h : s.fate e with
      | known => rw [met_of_known h, met_of_known (hfate.trans h)]
      | echoed => rw [met_of_echoed h, met_of_echoed (hfate.trans h)]
      | added => rw [met_of_added h, met_of_added (hfate.trans h), append, append]
    rw [List.foldl_cons, hmet, List.foldl_cons, ih]

/-- The entries of a snapshot change the conversation, what was seen, the echoes and the
number of the conversation, and no more. -/
theorem exists_foldl_met_eq (es : List Entry) (s : Session) :
  ∃ conversation seen echoes generation, es.foldl met s = { s with
    conversation := conversation, seen := seen, echoes := echoes, generation := generation }
  := by
  induction es generalizing s with
  | nil => exact ⟨s.conversation, s.seen, s.echoes, s.generation, rfl⟩
  | cons e es ih =>
    obtain ⟨_, _, _, _, hrest⟩ := ih (s.met e)
    rw [List.foldl_cons, hrest]
    cases hfate : s.fate e with
    | known =>
      rw [met_of_known hfate]
      exact ⟨_, _, _, _, rfl⟩
    | echoed =>
      rw [met_of_echoed hfate]
      exact ⟨_, _, _, _, rfl⟩
    | added =>
      rw [met_of_added hfate]
      exact ⟨_, _, _, _, rfl⟩

/-- A snapshot sets the task, has its entries taken in order, and may end the waiting. -/
theorem exists_apply_eq (s : Session) (snapshot : Snapshot) :
  ∃ waiting, s.apply snapshot =
    { snapshot.entries.foldl met s with task := snapshot.task, waiting := waiting }
  := by
  obtain ⟨waiting, h⟩ := exists_reconcile_eq { s with task := snapshot.task } snapshot.entries
  use waiting
  rw [apply, h, foldl_met_task]

end TaskConsole.Session
