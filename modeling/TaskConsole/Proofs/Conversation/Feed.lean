import Mathlib.Data.List.Basic
import TaskConsole.Conversation.Feed
import TaskConsole.Proofs.Styled.Wrap

/-!
# The rows of entries

Every entry but an empty text of the user has rows of its own (`Feed.entryRows_ne_nil`), and
apart from spaces and line feeds they have the text of its lines (`Feed.shownText_entryRows`).
Further entries are laid out below the others (`Feed.layout_prefix`).
-/

namespace TaskConsole

/-- A text that is not empty has a line. -/
theorem Text.lines_ne_nil {text : String} (h : text ≠ "") :
  Text.lines text ≠ []
  := by
  -- where a line feed follows, there is the line behind it
  have hfeed : ∀ cs : List Char, (cs.foldr lineStep ([], false)).2 = true →
      (cs.foldr lineStep ([], false)).1 ≠ [] := by
    intro cs
    cases cs with
    | nil => nofun
    | cons c cs =>
      rw [List.foldr_cons, lineStep]
      split
      · intro _
        apply List.cons_ne_nil
      · split
        · nofun
        · nofun
  have hsome : text.toList ≠ [] := by
    rw [ne_eq, String.toList_eq_nil_iff]
    exact h
  rw [lines, ne_eq, List.map_eq_nil_iff, lineChars]
  cases hcs : text.toList with
  | nil => exact absurd hcs hsome
  | cons c cs =>
    rw [List.foldr_cons, lineStep]
    split
    · apply List.cons_ne_nil
    · split
      · next hreturn =>
        rw [Bool.and_eq_true] at hreturn
        apply hfeed cs hreturn.2
      · cases (cs.foldr lineStep ([], false)).1 with
        | nil => apply List.cons_ne_nil
        | cons line rest => apply List.cons_ne_nil

/-- An entry has lines, unless it is an empty text of the user. -/
theorem Entry.render_ne_nil (theme : Theme) {e : Entry} (h : e.kind ≠ .userText "") :
  e.render theme ≠ []
  := by
  rw [render]
  split
  · next text hkind =>
    have hsome : text ≠ "" := by
      rintro rfl
      exact h hkind
    rw [renderUserText, ne_eq, List.map_eq_nil_iff, List.zipIdx_eq_nil_iff]
    apply Text.lines_ne_nil hsome
  · split
    · apply List.cons_ne_nil
    · assumption
  · apply List.cons_ne_nil
  · next result _ =>
    rw [renderOutput.eq_def]
    split
    all_goals apply List.cons_ne_nil
  · apply List.cons_ne_nil

/-- The characters of a line are those of its cells. -/
theorem Line.toList_text (line : Line) :
  line.text.toList = line.cells.map Prod.fst
  := by
  rw [text, cells, String.toList_join, List.flatMap_map, List.map_flatMap]
  apply List.flatMap_congr
  intro span _
  rw [List.map_map]
  exact (List.map_id _).symm

namespace Feed

/-- The text of lines without spaces and line feeds. -/
def shownText (lines : List Line) : String :=
  String.ofList ((String.join (lines.map Line.text)).toList.filter fun c => c != ' ' && c != '\n')

/-- The text of lines without spaces and line feeds is that of their ink. -/
theorem shownText_eq (lines : List Line) :
  shownText lines = String.ofList ((inked (lines.flatMap Line.cells)).map Prod.fst)
  := by
  have hchars : (String.join (lines.map Line.text)).toList
      = (lines.flatMap Line.cells).map Prod.fst := by
    rw [String.toList_join, List.flatMap_map, List.map_flatMap]
    apply List.flatMap_congr
    intro line _
    apply Line.toList_text
  rw [shownText, hchars, inked, List.filter_map]
  rfl

/-- The rows of lines have the ink of the lines. -/
theorem inked_wrapped (lines : List Line) (width : Nat) :
  inked ((lines.flatMap fun line => line.wrap width).flatMap Line.cells)
    = inked (lines.flatMap Line.cells)
  := by
  rw [List.flatMap_assoc]
  apply inked_flatMap_congr
  intro line
  apply Line.inked_wrap

section Rows

variable (theme : Theme) (width : Nat)

/-- An entry has rows, unless it is an empty text of the user. -/
theorem entryRows_ne_nil {e : Entry} (h : e.kind ≠ .userText "") :
  entryRows theme width e ≠ []
  := by
  obtain ⟨line, lines, hlines⟩ := List.exists_cons_of_ne_nil (e.render_ne_nil theme h)
  rw [entryRows, hlines, List.flatMap_cons]
  apply List.append_ne_nil_of_left_ne_nil
  apply Line.wrap_ne_nil

/-- Apart from spaces and line feeds, the rows of an entry have the text of its lines. -/
theorem shownText_entryRows (e : Entry) :
  shownText (entryRows theme width e) = shownText (e.render theme)
  := by
  rw [shownText_eq, shownText_eq, entryRows, inked_wrapped]

/-- Further entries are laid out below the others. -/
theorem layout_prefix (es es' : List Entry) :
  layout theme width es <+: layout theme width (es ++ es')
  := by
  rw [layout, layout, List.map_append]
  generalize es.map (entryRows theme width) = rows
  generalize es'.map (entryRows theme width) = rows'
  induction rows with
  | nil => exact List.nil_prefix
  | cons row rows ih =>
    cases rows with
    | nil =>
      rw [List.intercalate_singleton, List.singleton_append]
      cases rows' with
      | nil =>
        use []
        rw [List.append_nil, List.intercalate_singleton]
      | cons row' rows' =>
        rw [List.intercalate_cons_cons, List.append_assoc]
        apply List.prefix_append
    | cons next rows =>
      rw [List.cons_append, List.cons_append, List.intercalate_cons_cons,
        List.intercalate_cons_cons]
      apply (List.prefix_append_right_inj _).mpr ih

end Rows

end Feed

end TaskConsole
