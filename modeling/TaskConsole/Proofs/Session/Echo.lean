import Mathlib.Data.List.Nodup
import TaskConsole.Proofs.Session.Provenance

/-!
# What becomes of echoes

A text that was sent is waited for until an entry of the service is taken for its echo, or
until it is `withdrawn` because it could not be sent.  The counts of these add up over
every run (`Session.count_echoes_run`), and what was taken for echoes, followed by what is
waited for, keeps the order in which the texts were sent (`Session.echoes_sublist_run`).
So no text of the user that the service sends is lost: it is shown, or an entry that was
made here for the same text `StandsFor` it (`Session.sent_texts_accounted`).
-/

namespace TaskConsole.Session

open Entry
open scoped List

/-- The text whose echo is taken away at an event because the text could not be sent. -/
def withdrawn (s : Session) (_now : Nat) (e : Event) : List String :=
  match s.turn e with
  | .refuse text _ => if text ∈ s.echoes then [text] else []
  | _ => []

/-- The texts of the user among entries, apart from blanks at their ends. -/
def trimmedTexts (es : List Entry) : List String := (userTexts es).map Text.trim

theorem trimmedTexts_append (es es' : List Entry) :
  trimmedTexts (es ++ es') = trimmedTexts es ++ trimmedTexts es'
  := by
  rw [trimmedTexts, userTexts_append, List.map_append]
  rfl

/-- An entry stands for another one when it has the text of that one, apart from blanks at
its ends. -/
def StandsFor (shown e : Entry) : Prop :=
  ∃ text, e.kind = .userText text ∧ shown.kind = .userText (Text.trim text)

/-! ### The account -/

/-- Among texts that are waited for, the one that is withdrawn, if it is there, and the
others. -/
theorem count_eq_withdrawn_add_erase (awaited : List String) (refused text : String) :
  awaited.count text
    = (if refused ∈ awaited then [refused] else []).count text
      + (awaited.erase refused).count text
  := by
  by_cases hmem : refused ∈ awaited
  · have hparts : awaited ~ [refused] ++ awaited.erase refused := List.perm_cons_erase hmem
    rw [if_pos hmem, hparts.count_eq, List.count_append]
  · rw [if_neg hmem, List.erase_of_not_mem hmem, List.count_nil, Nat.zero_add]

/-- What is waited for before an event, and what is sent at it, is taken for echoes, or
withdrawn, or waited for after it. -/
theorem count_echoes_handle (s : Session) (now : Nat) (e : Event) (text : String) :
  s.echoes.count text + (s.sends now e).count text
    = (trimmedTexts (s.absorbed now e)).count text + (s.withdrawn now e).count text
      + (s.handle now e).1.echoes.count text
  := by
  rw [sends, handle_sent, echoes_handle, absorbed, withdrawn]
  cases s.turn e with
  | aside => exact (Nat.zero_add _).symm
  | complain notice => exact (Nat.zero_add _).symm
  | say said =>
    rw [echoesAfter, List.count_append]
    exact (Nat.zero_add _).symm
  | refuse refused notice =>
    apply (count_eq_withdrawn_add_erase s.echoes refused text).trans
    exact congrArg (· + _) (Nat.zero_add _).symm
  | take snapshot =>
    have hechoes : s.echoes = trimmedTexts (s.ofFate .echoed snapshot.entries)
        ++ (snapshot.entries.foldl met s).echoes := echoes_foldl_met snapshot.entries s
    rw [hechoes, List.count_append]
    rfl

/-- Over a run, what is waited for before it, and what is sent in it, is taken for echoes,
or withdrawn, or waited for after it. -/
theorem count_echoes_run (s : Session) (events : List (Nat × Event)) (text : String) :
  s.echoes.count text + (s.along sends events).count text
    = (trimmedTexts (s.along absorbed events)).count text
      + (s.along withdrawn events).count text + (s.run events).echoes.count text
  := by
  induction events generalizing s with
  | nil => simp [along, run, trimmedTexts, userTexts]
  | cons event events ih =>
    obtain ⟨now, e⟩ := event
    have hrun : s.run ((now, e) :: events) = (s.handle now e).1.run events := rfl
    have hstep := s.count_echoes_handle now e text
    have hrest := ih (s.handle now e).1
    simp only [hrun, along, trimmedTexts_append, List.count_append]
    omega

/-! ### The order -/

/-- What is taken for echoes at an event, followed by what is waited for after it, keeps
the order of what was waited for before it and what is sent at it. -/
theorem echoes_sublist_handle (s : Session) (now : Nat) (e : Event) :
  trimmedTexts (s.absorbed now e) ++ (s.handle now e).1.echoes <+ s.echoes ++ s.sends now e
  := by
  rw [sends, handle_sent, echoes_handle, absorbed]
  cases s.turn e with
  | aside => apply List.sublist_append_left
  | complain notice => apply List.sublist_append_left
  | say said => apply List.Sublist.refl
  | refuse refused notice =>
    apply List.Sublist.trans _ (List.sublist_append_left _ _)
    apply List.erase_sublist
  | take snapshot =>
    have hechoes := echoes_foldl_met snapshot.entries s
    apply List.Sublist.trans _ (List.sublist_append_left _ _)
    rw [hechoes]
    apply List.Sublist.refl

/-- What is taken for echoes in a run, followed by what is waited for after it, keeps the
order of what was waited for before it and what is sent in it. -/
theorem echoes_sublist_run (s : Session) (events : List (Nat × Event)) :
  trimmedTexts (s.along absorbed events) ++ (s.run events).echoes
    <+ s.echoes ++ s.along sends events
  := by
  induction events generalizing s with
  | nil => simp [along, run, trimmedTexts, userTexts]
  | cons event events ih =>
    obtain ⟨now, e⟩ := event
    have hrest := (ih (s.handle now e).1).append_left (trimmedTexts (s.absorbed now e))
    have hstep := (s.echoes_sublist_handle now e).append_right ((s.handle now e).1.along sends events)
    simp only [List.append_assoc] at hrest hstep
    simp only [along, trimmedTexts_append, List.append_assoc]
    apply hrest.trans hstep

/-! ### What is taken for echoes -/

/-- Among the entries of a snapshot, those of one fate other than being known are fresh, and
keep their order. -/
theorem ofFate_sublist_fresh {f : Fate} (hf : f ≠ .known) (s : Session) (es : List Entry) :
  s.ofFate f es <+ fresh s.seen es
  := by
  induction es generalizing s with
  | nil => apply List.Sublist.refl
  | cons e es ih =>
    have hrest := ih (s.met e)
    rw [ofFate]
    cases hfate : s.fate e with
    | known =>
      rw [met_of_known hfate] at hrest ⊢
      rw [if_neg hf.symm, fresh_cons_of_mem (fate_eq_known_iff.mp hfate)]
      exact hrest
    | echoed =>
      have hseen : (s.met e).seen = e.id :: s.seen := by rw [met_of_echoed hfate]
      rw [hseen] at hrest
      rw [fresh_cons_of_not_mem (fate_eq_echoed_iff.mp hfate).1]
      split
      · apply hrest.cons_cons
      · apply hrest.cons
    | added =>
      have hseen : (s.met e).seen = e.id :: s.seen := by rw [met_of_added hfate]; rfl
      rw [hseen] at hrest
      rw [fresh_cons_of_not_mem (fate_eq_added_iff.mp hfate).1]
      split
      · apply hrest.cons_cons
      · apply hrest.cons

/-- What is taken for echoes in a run is fresh in what the service offers in it. -/
theorem absorbed_sublist_fresh (s : Session) (events : List (Nat × Event)) :
  s.along absorbed events <+ fresh s.seen (s.along offers events)
  := by
  induction events generalizing s with
  | nil => apply List.nil_sublist
  | cons event events ih =>
    obtain ⟨now, e⟩ := event
    have hseen : fresh ((s.turn e).entries.map Entry.id ++ s.seen)
        ((s.handle now e).1.along offers events)
        = fresh (s.handle now e).1.seen ((s.handle now e).1.along offers events) :=
      fresh_congr (fun id => (mem_seen_handle s now e id).symm) _
    rw [along, along, offers, fresh_append, hseen]
    apply List.Sublist.append _ (ih _)
    apply ofFate_sublist_fresh (by decide)

/-- A part of a list without repetitions that keeps its order is told by its members. -/
theorem eq_filter_of_sublist {es es' : List Entry} (h : es <+ es') (hnodup : es'.Nodup) :
  es = es'.filter fun e => e ∈ es
  := by
  have hself : es.filter (fun e => e ∈ es) = es := by
    rw [List.filter_eq_self]
    intro e he
    apply decide_eq_true he
  have hpart : es <+ es'.filter fun e => e ∈ es := by
    have hfilter := h.filter fun e => decide (e ∈ es)
    rw [hself] at hfilter
    exact hfilter
  apply hpart.eq_of_length_le
  apply (hnodup.filter _).length_le_of_subset
  intro e he
  apply of_decide_eq_true (List.mem_filter.mp he).2

/-- Texts of the user whose trimmed texts are, in order, among the texts of the user that
are shown have entries that stand for them, each one of its own. -/
theorem exists_standsFor
    {es shown : List Entry} (hkinds : ∀ e ∈ es, ∃ text, e.kind = .userText text)
    (h : trimmedTexts es <+ userTexts shown) :
  ∃ standing, standing <+ shown ∧ List.Forall₂ StandsFor standing es
  := by
  induction shown generalizing es with
  | nil =>
    cases es with
    | nil => exact ⟨[], List.Sublist.refl _, .nil⟩
    | cons e es =>
      obtain ⟨text, hkind⟩ := hkinds e List.mem_cons_self
      have htext : e.userText? = some text := by rw [userText?, hkind]
      rw [trimmedTexts, userTexts, List.filterMap_cons_some htext] at h
      cases h
  | cons first shown ih =>
    have hskip : trimmedTexts es <+ userTexts shown →
        ∃ standing, standing <+ first :: shown ∧ List.Forall₂ StandsFor standing es := by
      intro hrest
      obtain ⟨standing, hstanding, hall⟩ := ih hkinds hrest
      exact ⟨standing, hstanding.cons first, hall⟩
    cases hfirst : first.userText? with
    | none =>
      rw [userTexts, List.filterMap_cons_none hfirst] at h
      apply hskip h
    | some said =>
      rw [userTexts, List.filterMap_cons_some hfirst] at h
      cases es with
      | nil => exact ⟨[], List.nil_sublist _, .nil⟩
      | cons e es =>
        obtain ⟨text, hkind⟩ := hkinds e List.mem_cons_self
        have htext : e.userText? = some text := by rw [userText?, hkind]
        have htexts : trimmedTexts (e :: es) = Text.trim text :: trimmedTexts es := by
          rw [trimmedTexts, userTexts, List.filterMap_cons_some htext, List.map_cons]
          rfl
        rw [htexts] at h hskip
        rcases List.cons_sublist_cons'.mp h with hlater | ⟨hnow, hrest⟩
        · apply hskip hlater
        · obtain ⟨standing, hstanding, hall⟩ :=
            ih (fun e he => hkinds e (List.mem_cons_of_mem _ he)) hrest
          use first :: standing, hstanding.cons_cons first
          apply List.Forall₂.cons _ hall
          use text, hkind
          rw [hnow]
          apply kind_of_userText? hfirst

section Start

variable (snapshot : Snapshot) (agent : Agent) (agents : List Agent) (theme : Theme)
  (viewport : Viewport)

/-- From the start, what is taken for echoes is what the service offered for a first time
and is not among the entries of the service. -/
theorem absorbed_eq_missing (events : List (Nat × Event)) :
  let opened := start snapshot agent agents theme viewport
  let offered := snapshot.entries ++ opened.along offers events
  opened.along absorbed events
    = (firsts offered).filter fun e => e ∉ ofOrigin .service (opened.history events)
  := by
  intro opened offered
  obtain ⟨-, -, -, hseen⟩ := start_eq snapshot agent agents theme viewport
  have hfirsts : opened.along absorbed events <+ firsts offered := by
    have hfresh : fresh opened.seen (opened.along offers events)
        = fresh (snapshot.entries.map Entry.id ++ []) (opened.along offers events) := by
      apply fresh_congr
      intro id
      rw [List.append_nil]
      apply hseen
    rw [← fresh_nil_seen, fresh_append, ← hfresh]
    apply (opened.absorbed_sublist_fresh events).trans (List.sublist_append_right _ _)
  have hnodup : (firsts offered).Nodup := (nodup_firsts offered).of_map _
  rw [ofOrigin_service_history]
  apply (eq_filter_of_sublist hfirsts hnodup).trans
  apply List.filter_congr
  intro e he
  simp [offered, opened, he]

/-- Every text that was sent is waited for, or an entry of the service was taken for its
echo, or it was withdrawn: the counts add up for each text.  What was taken for echoes is
what the service offered for a first time and is not among its entries in the
conversation; each such entry is a text of the user and has an entry of its own, made here
with the same text apart from blanks at its ends, that stands for it; and the trimmed
texts, followed by what is waited for, keep the order in which the texts were sent. -/
theorem sent_texts_accounted (events : List (Nat × Event)) :
  let opened := start snapshot agent agents theme viewport
  let s := opened.run events
  let history := opened.history events
  let offered := snapshot.entries ++ opened.along offers events
  let echoed := (firsts offered).filter fun e => e ∉ ofOrigin .service history
  s.conversation = history.map Prod.snd
    ∧ opened.along absorbed events = echoed
    ∧ (∀ text, (userTexts (ofOrigin .here history)).count text
      = s.echoes.count text + (trimmedTexts echoed).count text
        + (opened.along withdrawn events).count text)
    ∧ (∃ standing, standing <+ ofOrigin .here history ∧ List.Forall₂ StandsFor standing echoed)
    ∧ trimmedTexts echoed ++ s.echoes <+ opened.along sends events
  := by
  intro opened s history offered echoed
  obtain ⟨-, -, hechoes, -⟩ := start_eq snapshot agent agents theme viewport
  have hnone : opened.echoes = [] := hechoes
  have hechoed : opened.along absorbed events = echoed :=
    absorbed_eq_missing snapshot agent agents theme viewport events
  have hhere : userTexts (ofOrigin .here history) = opened.along sends events := by
    rw [ofOrigin_here_history]
    apply (opened.ofOrigin_here_along events).1
  have horder := opened.echoes_sublist_run events
  rw [hnone, List.nil_append, hechoed] at horder
  constructor
  · apply conversation_history
  constructor
  · exact hechoed
  constructor
  · intro text
    have hcount := opened.count_echoes_run events text
    rw [hnone, List.count_nil, Nat.zero_add, hechoed] at hcount
    rw [hhere, hcount, Nat.add_comm, Nat.add_assoc]
  constructor
  · apply exists_standsFor
    · intro e he
      rw [← hechoed] at he
      apply exists_userText_of_absorbed he
    · rw [hhere]
      apply (List.sublist_append_left _ _).trans horder
  · exact horder

end Start

end TaskConsole.Session
