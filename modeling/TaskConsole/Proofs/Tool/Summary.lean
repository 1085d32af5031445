import TaskConsole.Conversation.Render
import TaskConsole.Proofs.Text.Truncate
import TaskConsole.Proofs.Text.Words

/-!
# Summaries of calls

The summary of an invocation is the verb of its tool with what it is about in brackets, and however
long that is, the summary is bounded.  A phrase is put on one line there, but a path and the name of
an agent are shown as they are (`ToolInvocation.verbatim`): these, and nothing else, bring line
feeds and carriage returns into a summary (`ToolInvocation.summary_bounded`).
-/

namespace TaskConsole.ToolInvocation

/-- The number of characters that what an invocation is about may take: two arguments and what
stands between them for a search in a place, and one argument otherwise. -/
def subjectBudget : ToolInvocation → Nat
  | search _ (some path) =>
    if Text.isBlankText path then budget else budget + ", in ".length + budget
  | _ => budget

/-- What an invocation shows as the agent wrote it: a path or the name of an agent, as far as the
budget goes.  Phrases are put on one line. -/
def verbatim : ToolInvocation → String
  | read path => pathText path
  | write path _ => pathText path
  | edit path => pathText path
  | list path => pathText path
  | run _ => ""
  | search _ none => ""
  | search _ (some path) => if Text.isBlankText path then "" else pathText path
  | handoff agent _ => Text.truncateEnd agent budget

/-- A path is shown with no more characters than an argument may take. -/
theorem length_pathText_le (path : String) :
  (pathText path).length ≤ budget
  := by
  rw [pathText, Text.length_truncateStart]
  apply Nat.min_le_left

/-- A phrase is shown with no more characters than an argument may take. -/
theorem length_phraseText_le (phrase : String) :
  (phraseText phrase).length ≤ budget
  := by
  rw [phraseText, Text.length_truncateEnd]
  apply Nat.min_le_left

/-- What is blank in a phrase that is shown are spaces. -/
theorem not_mem_phraseText {c : Char} (hblank : Text.isBlank c = true) (hspace : c ≠ ' ')
    (phrase : String) :
  c ∉ (phraseText phrase).toList
  := by
  intro hc
  rcases Text.mem_of_mem_truncateEnd hc with hline | hellipsis
  · exact hspace (Text.eq_space_of_mem_singleLine hline hblank)
  · -- the ellipsis is made of dots
    rw [List.eq_of_mem_replicate (n := 3) hellipsis] at hblank
    revert hblank
    decide

/-- What an invocation is about has no more characters than its budget allows. -/
theorem length_subject_le (i : ToolInvocation) :
  i.subject.length ≤ i.subjectBudget
  := by
  cases i with
  | read path => apply length_pathText_le
  | write path content => apply length_pathText_le
  | edit path => apply length_pathText_le
  | list path => apply length_pathText_le
  | run command => apply length_phraseText_le
  | handoff agent message =>
    rw [subject, Text.length_truncateEnd]
    apply Nat.min_le_left
  | search pattern path =>
    cases path with
    | none => apply length_phraseText_le
    | some path =>
      rw [subject, subjectBudget]
      split
      · apply length_phraseText_le
      · rw [String.length_append, String.length_append]
        have hpattern := length_phraseText_le pattern
        have hpath := length_pathText_le path
        omega

/-- A blank character other than a space stands in what an invocation is about exactly if it stands
in what is shown as the agent wrote it. -/
theorem mem_subject_iff {c : Char} (hblank : Text.isBlank c = true) (hspace : c ≠ ' ')
    (i : ToolInvocation) :
  c ∈ i.subject.toList ↔ c ∈ i.verbatim.toList
  := by
  have hphrase : ∀ phrase, c ∈ (phraseText phrase).toList ↔ c ∈ "".toList :=
    fun phrase => iff_of_false (not_mem_phraseText hblank hspace phrase) List.not_mem_nil
  cases i with
  | read path => rfl
  | write path content => rfl
  | edit path => rfl
  | list path => rfl
  | handoff agent message => rfl
  | run command => apply hphrase
  | search pattern path =>
    cases path with
    | none => apply hphrase
    | some path =>
      rw [subject, verbatim]
      split
      · apply hphrase
      · have hbetween : (", in ".toList.all fun c => !Text.isBlank c || c = ' ') = true := by decide
        rw [String.toList_append, String.toList_append, List.mem_append, List.mem_append]
        apply or_iff_right
        rintro (hpattern | hin)
        · exact not_mem_phraseText hblank hspace pattern hpattern
        · have hink := List.all_eq_true.mp hbetween c hin
          rw [hblank, Bool.not_true, Bool.false_or, decide_eq_true_iff] at hink
          exact hspace hink

/-- Every summary is the verb of the tool with at most so many characters in brackets as the
arguments may take, and every call is shown on one line.  What is blank in a summary are spaces,
apart from the blank characters of a path or of the name of an agent, which are shown as they
are: a line feed or a carriage return stands in a summary exactly if it stands in one of these. -/
theorem summary_bounded (i : ToolInvocation) :
  (∃ subject, i.summary = i.kind.verb ++ "(" ++ subject ++ ")")
    ∧ i.summary.length ≤ i.kind.verb.length + 2 + i.subjectBudget
    ∧ (∀ (theme : Theme) (id callId : String),
      (Entry.render theme ⟨id, .call ⟨callId, i⟩⟩).map Line.text = ["● " ++ i.summary])
    ∧ ∀ c, Text.isBlank c = true → c ≠ ' ' →
      (c ∈ i.summary.toList ↔ c ∈ i.verbatim.toList)
  := by
  refine ⟨⟨i.subject, rfl⟩, ?_, ?_, ?_⟩
  · have hsubject := i.length_subject_le
    have hopen : "(".length = 1 := rfl
    have hclose : ")".length = 1 := rfl
    rw [summary, String.length_append, String.length_append, String.length_append]
    omega
  · intro theme id callId
    rw [Entry.render, List.map_singleton, Line.text, List.map_cons, List.map_singleton,
      String.join_cons, String.join_cons, String.join_nil, String.append_empty]
  · intro c hblank hspace
    have hverb : c ∉ i.kind.verb.toList := by
      intro hc
      have hall : (i.kind.verb.toList.all fun c => !Text.isBlank c) = true := by
        cases i.kind with
        | _ => decide
      have hink := List.all_eq_true.mp hall c hc
      rw [hblank] at hink
      cases hink
    have hopen : c ∉ "(".toList := by
      intro hc
      rw [List.mem_singleton.mp hc] at hblank
      cases hblank
    have hclose : c ∉ ")".toList := by
      intro hc
      rw [List.mem_singleton.mp hc] at hblank
      cases hblank
    rw [← mem_subject_iff hblank hspace i, summary]
    simp only [String.toList_append, List.mem_append, hverb, hopen, hclose, false_or, or_false]

/-- Not every summary is free of line feeds and carriage returns: a command is put on one line, but
the path of a file and the name of an agent keep theirs. -/
theorem exists_summary_with_feed :
  (¬∀ i : ToolInvocation, '\n' ∉ i.summary.toList ∧ '\r' ∉ i.summary.toList)
    ∧ (run "a\nb").summary = "Run(a b)"
    ∧ (read "a\nb").summary = "Read(a\nb)"
    ∧ (search "a\nb" (some "c\r\nd")).summary = "Search(a b, in c\r\nd)"
    ∧ (handoff "a\nb" "").summary = "Handoff(a\nb)"
  := by
  have hread : (read "a\nb").summary = "Read(a\nb)" := by decide +kernel
  refine ⟨?_, by decide +kernel, hread, by decide +kernel, by decide +kernel⟩
  intro h
  have hfeed := (h (read "a\nb")).1
  rw [hread] at hfeed
  exact hfeed (by decide)

end TaskConsole.ToolInvocation
