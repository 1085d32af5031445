import Mathlib.Data.List.DropRight
import TaskConsole.Proofs.Conversation.Feed
import TaskConsole.Proofs.Text.Trim
import TaskConsole.Styled.Trim

/-!
# Trimmed lines

Trimming takes what is blank away at three levels: lines, the spans of the line at the edge, and
the characters of the span at the edge.  At each level it clears an edge of a list: the blank
elements there are dropped, and the first that is left is cut (`clearFront`, `clearBack`).  The
two edges do not disturb each other (`clearFront_clearBack`), and clearing an edge of elements
clears the edge of what they hold (`dropWhile_intercalate`, `rdropWhile_intercalate`).  So what is
left of styled lines has the characters of the trimmed text, each in the style that it had
(`trimEdges_eq_trim`).
-/

namespace TaskConsole

/-! ### Edges -/

section Edges

variable {α β : Type} (blank : α → Bool) (cut : α → α)

/-- A list without the blank elements at its front, the first of the others cut. -/
def clearFront (l : List α) : List α := (l.dropWhile blank).modifyHead cut

/-- A list without the blank elements at its back, the last of the others cut. -/
def clearBack (l : List α) : List α := modifyLast cut (l.rdropWhile blank)

theorem clearFront_cons (a : α) (l : List α) :
  clearFront blank cut (a :: l) = if blank a then clearFront blank cut l else cut a :: l
  := by
  rw [clearFront, List.dropWhile_cons]
  split
  · rfl
  · rfl

/-- What is dropped at the back of two lists ends in the second one, unless that is dropped
whole. -/
theorem rdropWhile_append_eq_ite (l l' : List α) :
  (l ++ l').rdropWhile blank =
    if l'.rdropWhile blank = [] then l.rdropWhile blank else l ++ l'.rdropWhile blank
  := by
  rw [List.rdropWhile, List.rdropWhile, List.rdropWhile, List.reverse_append,
    List.dropWhile_append]
  by_cases h : l'.reverse.dropWhile blank = []
  · rw [h, if_pos List.isEmpty_nil, List.reverse_nil, if_pos rfl]
  · rw [if_neg (by rwa [List.isEmpty_iff]), if_neg (by rwa [List.reverse_eq_nil_iff]),
      List.reverse_append, List.reverse_reverse]

theorem rdropWhile_cons_eq_ite (a : α) (l : List α) :
  (a :: l).rdropWhile blank =
    if l.rdropWhile blank = [] then (if blank a then [] else [a]) else a :: l.rdropWhile blank
  := by
  have hone : [a].rdropWhile blank = if blank a then [] else [a] := by
    rw [List.rdropWhile, List.reverse_singleton, List.dropWhile_cons]
    split
    · rfl
    · rfl
  rw [← List.singleton_append, rdropWhile_append_eq_ite, hone]
  rfl

theorem modifyLast_cons_of_ne_nil (a : α) {l : List α} (h : l ≠ []) :
  modifyLast cut (a :: l) = a :: modifyLast cut l
  := by
  cases l with
  | nil => exact (h rfl).elim
  | cons b l => rfl

theorem clearBack_eq_nil_iff {l : List α} :
  clearBack blank cut l = [] ↔ ∀ a ∈ l, blank a
  := by
  rw [← List.rdropWhile_eq_nil_iff, clearBack]
  cases l.rdropWhile blank with
  | nil => exact Iff.rfl
  | cons a rest =>
    cases rest with
    | nil => simp [modifyLast]
    | cons b rest => simp [modifyLast]

theorem clearBack_cons (a : α) (l : List α) :
  clearBack blank cut (a :: l) =
    if clearBack blank cut l = [] then (if blank a then [] else [cut a])
    else a :: clearBack blank cut l
  := by
  rw [clearBack, rdropWhile_cons_eq_ite]
  simp only [clearBack_eq_nil_iff, ← List.rdropWhile_eq_nil_iff]
  split
  · split
    · rfl
    · rfl
  · next hsome => exact modifyLast_cons_of_ne_nil cut a hsome

variable {blank cut}

/-- Clearing the front of a cleared list changes nothing. -/
theorem clearFront_idem (hblank : ∀ a, blank (cut a) = blank a) (hcut : ∀ a, cut (cut a) = cut a)
    (l : List α) :
  clearFront blank cut (clearFront blank cut l) = clearFront blank cut l
  := by
  induction l with
  | nil => rfl
  | cons a l ih =>
    rw [clearFront_cons]
    split
    · exact ih
    · next hsome => rw [clearFront_cons, hblank, if_neg hsome, hcut]

/-- Clearing the back of a cleared list changes nothing. -/
theorem clearBack_idem (hblank : ∀ a, blank (cut a) = blank a) (hcut : ∀ a, cut (cut a) = cut a)
    (l : List α) :
  clearBack blank cut (clearBack blank cut l) = clearBack blank cut l
  := by
  induction l with
  | nil => rfl
  | cons a l ih =>
    rw [clearBack_cons]
    split
    · split
      · rfl
      · next hsome =>
        have hnil : clearBack blank cut [] = [] := rfl
        rw [clearBack_cons, hnil, if_pos rfl, hblank, if_neg hsome, hcut]
    · next hmore => rw [clearBack_cons, ih, if_neg hmore]

/-- It makes no difference which edge is cleared first. -/
theorem clearFront_clearBack
    {cut' : α → α} (hblank : ∀ a, blank (cut a) = blank a) (hblank' : ∀ a, blank (cut' a) = blank a)
    (hcuts : ∀ a, cut (cut' a) = cut' (cut a)) (l : List α) :
  clearFront blank cut (clearBack blank cut' l) = clearBack blank cut' (clearFront blank cut l)
  := by
  induction l with
  | nil => rfl
  | cons a l ih =>
    have hnil : clearFront blank cut [] = [] := rfl
    rw [clearBack_cons, clearFront_cons]
    by_cases ha : blank a
    · -- the blank element at the front is dropped in either order
      rw [if_pos ha, if_pos ha, ← ih]
      split
      · next hrest => rw [hrest]
      · rw [clearFront_cons, if_pos ha]
    · rw [if_neg ha, if_neg ha, clearBack_cons, hblank, if_neg ha]
      split
      · rw [clearFront_cons, hblank', if_neg ha, hcuts]
      · rw [clearFront_cons, if_neg ha]

/-- Clearing the front leaves a list blank exactly if it was. -/
theorem all_clearFront (hblank : ∀ a, blank (cut a) = blank a) (l : List α) :
  (clearFront blank cut l).all blank = l.all blank
  := by
  induction l with
  | nil => rfl
  | cons a l ih =>
    rw [clearFront_cons, List.all_cons]
    split
    · next ha => rw [ih, ha, Bool.true_and]
    · rw [List.all_cons, hblank]

/-- Clearing the back leaves a list blank exactly if it was. -/
theorem all_clearBack (hblank : ∀ a, blank (cut a) = blank a) (l : List α) :
  (clearBack blank cut l).all blank = l.all blank
  := by
  induction l with
  | nil => rfl
  | cons a l ih =>
    rw [clearBack_cons, List.all_cons, ← ih]
    split
    · next hrest =>
      rw [hrest, List.all_nil, Bool.and_true]
      split
      · next ha => rw [ha, List.all_nil]
      · rw [List.all_cons, List.all_nil, Bool.and_true, hblank]
    · rw [List.all_cons]

/-! ### What the elements hold -/

variable {p : β → Bool} {content : α → List β} {gap : List β}

/-- Elements hold nothing but blanks exactly if each of them is blank. -/
theorem all_intercalate (hgap : gap.all p) (hblank : ∀ a, blank a = (content a).all p)
    (l : List α) :
  (gap.intercalate (l.map content)).all p = l.all blank
  := by
  induction l with
  | nil => rfl
  | cons a l ih =>
    rw [List.all_cons, hblank]
    cases l with
    | nil => rw [List.map_singleton, List.intercalate_singleton, List.all_nil, Bool.and_true]
    | cons b l =>
      rw [← ih, List.map_cons, List.map_cons, List.intercalate_cons_cons, List.all_append,
        List.all_append, hgap, Bool.and_true]

/-- Clearing the front of elements drops what is blank at the front of what they hold. -/
theorem dropWhile_intercalate (hgap : gap.all p) (hblank : ∀ a, blank a = (content a).all p)
    (hcut : ∀ a, content (cut a) = (content a).dropWhile p) (l : List α) :
  (gap.intercalate (l.map content)).dropWhile p
    = gap.intercalate ((clearFront blank cut l).map content)
  := by
  induction l with
  | nil => rfl
  | cons a l ih =>
    have hnil : (content a).dropWhile p = [] ↔ blank a := by
      rw [List.dropWhile_eq_nil_iff, hblank, List.all_eq_true]
    have hempty : ((content a).dropWhile p).isEmpty = blank a := by
      rw [Bool.eq_iff_iff, List.isEmpty_iff, hnil]
    rw [clearFront_cons]
    cases l with
    | nil =>
      rw [List.map_singleton, List.intercalate_singleton]
      split
      · next ha => exact hnil.mpr ha
      · rw [List.map_singleton, List.intercalate_singleton, hcut]
    | cons b l =>
      rw [List.map_cons, List.map_cons, List.intercalate_cons_cons, List.append_assoc,
        List.dropWhile_append, hempty]
      split
      · rw [List.dropWhile_append, List.dropWhile_eq_nil_iff.mpr (List.all_eq_true.mp hgap)]
        exact ih
      · rw [List.map_cons, List.map_cons, List.intercalate_cons_cons, hcut, List.append_assoc]

/-- Clearing the back of elements drops what is blank at the back of what they hold. -/
theorem rdropWhile_intercalate (hgap : gap.all p) (hblank : ∀ a, blank a = (content a).all p)
    (hcut : ∀ a, content (cut a) = (content a).rdropWhile p) (l : List α) :
  (gap.intercalate (l.map content)).rdropWhile p
    = gap.intercalate ((clearBack blank cut l).map content)
  := by
  induction l with
  | nil => rfl
  | cons a l ih =>
    have hlast : (content a).rdropWhile p
        = gap.intercalate ((if blank a then [] else [cut a]).map content) := by
      split
      · next ha =>
        rw [hblank, List.all_eq_true] at ha
        rw [List.rdropWhile_eq_nil_iff.mpr ha]
        rfl
      · rw [List.map_singleton, List.intercalate_singleton, hcut]
    rw [clearBack_cons]
    cases l with
    | nil =>
      have hrest : clearBack blank cut [] = [] := rfl
      rw [List.map_singleton, List.intercalate_singleton, hrest, if_pos rfl, hlast]
    | cons b l =>
      -- nothing is left of the rest exactly if all of its elements are blank
      have hnil : (gap.intercalate ((b :: l).map content)).rdropWhile p = []
          ↔ clearBack blank cut (b :: l) = [] := by
        rw [clearBack_eq_nil_iff, List.rdropWhile_eq_nil_iff, ← List.all_eq_true,
          ← List.all_eq_true, all_intercalate hgap hblank]
      rw [List.map_cons, List.map_cons, List.intercalate_cons_cons, List.append_assoc,
        rdropWhile_append_eq_ite, rdropWhile_append_eq_ite, ← List.map_cons]
      by_cases hrest : clearBack blank cut (b :: l) = []
      · rw [if_pos (hnil.mpr hrest), if_pos hrest,
          List.rdropWhile_eq_nil_iff.mpr (List.all_eq_true.mp hgap), if_pos rfl, hlast]
      · have hmore : gap ++ (gap.intercalate ((b :: l).map content)).rdropWhile p ≠ [] :=
          List.append_ne_nil_of_right_ne_nil _ (mt hnil.mp hrest)
        rw [if_neg (mt hnil.mp hrest), if_neg hrest, if_neg hmore, ih, List.map_cons,
          List.intercalate_cons_of_ne_nil (mt List.map_eq_nil_iff.mp hrest), List.append_assoc]

end Edges

/-! ### Spans -/

namespace Text

theorem dropBlankStart_eq_clearFront (cs : List Char) :
  dropBlankStart cs = clearFront isBlank id cs
  := by
  rw [clearFront, List.modifyHead_id]
  rfl

theorem dropBlankEnd_eq_clearBack (cs : List Char) :
  dropBlankEnd cs = clearBack isBlank id cs
  := by
  rw [dropBlankEnd_eq, clearBack]
  induction cs.rdropWhile isBlank with
  | nil => rfl
  | cons c rest ih =>
    cases rest with
    | nil => rfl
    | cons d rest => exact congrArg (c :: ·) ih

/-- The character itself is what is cut off a character. -/
theorem isBlank_id (c : Char) :
  isBlank (id c) = isBlank c
  := rfl

theorem id_id (c : Char) :
  id (id c) = id c
  := rfl

end Text

namespace Span

variable (span : Span)

/-- The span without what is blank at its front. -/
def trimStart (span : Span) : Span := { span with text := Text.trimStart span.text }

/-- The span without what is blank at its back. -/
def trimEnd (span : Span) : Span := { span with text := Text.trimEnd span.text }

theorem toList_trimStart :
  span.trimStart.text.toList = clearFront Text.isBlank id span.text.toList
  := by
  rw [trimStart, Text.trimStart, String.toList_ofList, Text.dropBlankStart_eq_clearFront]

theorem toList_trimEnd :
  span.trimEnd.text.toList = clearBack Text.isBlank id span.text.toList
  := by
  rw [trimEnd, Text.trimEnd, String.toList_ofList, Text.dropBlankEnd_eq_clearBack]

theorem eq_of_toList_eq {span span' : Span} (htext : span.text.toList = span'.text.toList)
    (hstyle : span.style = span'.style) :
  span = span'
  := by
  rw [String.toList_inj] at htext
  cases span
  cases span'
  rw [mk.injEq]
  exact ⟨htext, hstyle⟩

theorem isBlank_trimStart :
  span.trimStart.isBlank = span.isBlank
  := by
  rw [isBlank, isBlank, Text.isBlankText, toList_trimStart, all_clearFront Text.isBlank_id]
  rfl

theorem isBlank_trimEnd :
  span.trimEnd.isBlank = span.isBlank
  := by
  rw [isBlank, isBlank, Text.isBlankText, toList_trimEnd, all_clearBack Text.isBlank_id]
  rfl

theorem trimStart_trimStart :
  span.trimStart.trimStart = span.trimStart
  := by
  apply eq_of_toList_eq
  · rw [toList_trimStart, toList_trimStart, clearFront_idem Text.isBlank_id Text.id_id]
  · rfl

theorem trimEnd_trimEnd :
  span.trimEnd.trimEnd = span.trimEnd
  := by
  apply eq_of_toList_eq
  · rw [toList_trimEnd, toList_trimEnd, clearBack_idem Text.isBlank_id Text.id_id]
  · rfl

theorem trimStart_trimEnd :
  span.trimEnd.trimStart = span.trimStart.trimEnd
  := by
  apply eq_of_toList_eq
  · rw [toList_trimStart, toList_trimEnd, toList_trimEnd, toList_trimStart,
      clearFront_clearBack Text.isBlank_id Text.isBlank_id Text.id_id]
  · rfl

end Span

/-! ### Lines -/

theorem modifyLast_concat {α : Type} (cut : α → α) (l : List α) (a : α) :
  modifyLast cut (l ++ [a]) = l ++ [cut a]
  := by
  induction l with
  | nil => rfl
  | cons b l ih =>
    rw [List.cons_append, modifyLast_cons_of_ne_nil cut b (List.concat_ne_nil a l), ih,
      List.cons_append]

namespace Line

/-- Trimming the front of a line clears the front of its spans. -/
theorem trimStart_eq (line : Line) :
  line.trimStart = { line with spans := clearFront Span.isBlank Span.trimStart line.spans }
  := by
  rw [trimStart, clearFront]
  cases line.spans.dropWhile Span.isBlank with
  | nil => rfl
  | cons span rest => rfl

/-- Trimming the back of a line clears the back of its spans. -/
theorem trimEnd_eq (line : Line) :
  line.trimEnd = { line with spans := clearBack Span.isBlank Span.trimEnd line.spans }
  := by
  rw [trimEnd, clearBack, List.rdropWhile]
  cases line.spans.reverse.dropWhile Span.isBlank with
  | nil => rfl
  | cons span rest =>
    rw [List.reverse_cons, modifyLast_concat, ← List.reverse_cons]
    rfl

theorem isBlank_trimStart (line : Line) :
  line.trimStart.isBlank = line.isBlank
  := by
  rw [trimStart_eq, isBlank, isBlank, all_clearFront Span.isBlank_trimStart]

theorem isBlank_trimEnd (line : Line) :
  line.trimEnd.isBlank = line.isBlank
  := by
  rw [trimEnd_eq, isBlank, isBlank, all_clearBack Span.isBlank_trimEnd]

theorem trimStart_trimStart (line : Line) :
  line.trimStart.trimStart = line.trimStart
  := by
  rw [trimStart_eq, trimStart_eq,
    clearFront_idem Span.isBlank_trimStart Span.trimStart_trimStart]

theorem trimEnd_trimEnd (line : Line) :
  line.trimEnd.trimEnd = line.trimEnd
  := by
  rw [trimEnd_eq, trimEnd_eq, clearBack_idem Span.isBlank_trimEnd Span.trimEnd_trimEnd]

theorem trimStart_trimEnd (line : Line) :
  line.trimEnd.trimStart = line.trimStart.trimEnd
  := by
  rw [trimStart_eq, trimEnd_eq, trimEnd_eq, trimStart_eq,
    clearFront_clearBack Span.isBlank_trimStart Span.isBlank_trimEnd Span.trimStart_trimEnd]

end Line

/-! ### Lists of lines -/

/-- Trimming the edges of lines clears the front and then the back. -/
theorem trimEdges_eq (lines : List Line) :
  trimEdges lines
    = clearBack Line.isBlank Line.trimEnd (clearFront Line.isBlank Line.trimStart lines)
  := by
  have hdrop : dropBlankLines lines
      = (lines.dropWhile Line.isBlank).rdropWhile Line.isBlank := rfl
  rw [trimEdges, hdrop, clearFront, clearBack]
  cases lines.dropWhile Line.isBlank with
  | nil => rfl
  | cons line rest =>
    congr 1
    rw [List.modifyHead_cons, rdropWhile_cons_eq_ite, rdropWhile_cons_eq_ite,
      Line.isBlank_trimStart]
    split
    · split
      · rfl
      · rfl
    · rfl

theorem rdropWhile_map {α β : Type} (f : α → β) (p : β → Bool) (l : List α) :
  (l.map f).rdropWhile p = (l.rdropWhile (p ∘ f)).map f
  := by
  rw [List.rdropWhile, List.rdropWhile, ← List.map_reverse, List.dropWhile_map, List.map_reverse]

theorem map_intercalate {α β : Type} (f : α → β) (gap : List α) (ls : List (List α)) :
  (gap.intercalate ls).map f = (gap.map f).intercalate (ls.map (List.map f))
  := by
  induction ls with
  | nil => rfl
  | cons l ls ih =>
    cases ls with
    | nil => rw [List.intercalate_singleton, List.map_singleton, List.intercalate_singleton]
    | cons l' ls =>
      rw [List.intercalate_cons_cons, List.map_append, List.map_append, ih]
      exact List.intercalate_cons_cons.symm

/-- A character of styled lines, with the style of its span; the breaks between the lines have
none. -/
abbrev Mark := Char × Option Style

/-- Whether a character of styled lines is blank. -/
def Mark.isBlank (mark : Mark) : Bool := Text.isBlank mark.1

/-- The characters of a span, with its style. -/
def Span.marks (span : Span) : List Mark := span.text.toList.map fun c => (c, some span.style)

/-- The characters of a line, with the styles of its spans. -/
def Line.marks (line : Line) : List Mark := line.cells.map fun cell => (cell.1, some cell.2)

/-- The characters of lines with their styles, and the breaks between the lines. -/
def marks (lines : List Line) : List Mark :=
  List.intercalate [('\n', none)] (lines.map Line.marks)

namespace Span

variable (span : Span)

theorem isBlank_eq_marks :
  span.isBlank = span.marks.all Mark.isBlank
  := by
  rw [marks, List.all_map]
  rfl

theorem marks_trimStart :
  span.trimStart.marks = span.marks.dropWhile Mark.isBlank
  := by
  rw [marks, marks, List.dropWhile_map, trimStart, Text.trimStart, String.toList_ofList]
  rfl

theorem marks_trimEnd :
  span.trimEnd.marks = span.marks.rdropWhile Mark.isBlank
  := by
  rw [marks, marks, rdropWhile_map, trimEnd, Text.trimEnd, String.toList_ofList]
  rfl

end Span

namespace Line

variable (line : Line)

theorem marks_eq :
  line.marks = List.intercalate [] (line.spans.map Span.marks)
  := by
  have hflatten : ∀ ls : List (List Mark), List.intercalate [] ls = ls.flatten := by
    intro ls
    induction ls with
    | nil => rfl
    | cons l ls ih =>
      cases ls with
      | nil => rw [List.intercalate_singleton, List.flatten_singleton]
      | cons l' ls =>
        rw [List.intercalate_cons_cons, ih, List.append_nil, ← List.flatten_cons]
  rw [hflatten, marks, cells, List.map_flatMap, ← List.flatMap_def]
  apply List.flatMap_congr
  intro span _
  rw [List.map_map]
  rfl

theorem isBlank_eq_marks :
  line.isBlank = line.marks.all Mark.isBlank
  := by
  rw [marks_eq, all_intercalate rfl Span.isBlank_eq_marks]
  rfl

/-- Trimming the front of a line drops the blank characters there. -/
theorem marks_trimStart :
  line.trimStart.marks = line.marks.dropWhile Mark.isBlank
  := by
  rw [marks_eq, marks_eq, trimStart_eq,
    dropWhile_intercalate rfl Span.isBlank_eq_marks Span.marks_trimStart]

/-- Trimming the back of a line drops the blank characters there. -/
theorem marks_trimEnd :
  line.trimEnd.marks = line.marks.rdropWhile Mark.isBlank
  := by
  rw [marks_eq, marks_eq, trimEnd_eq,
    rdropWhile_intercalate rfl Span.isBlank_eq_marks Span.marks_trimEnd]

end Line

/-- A break between lines is blank. -/
theorem isBlank_break :
  List.all [(('\n', none) : Mark)] Mark.isBlank
  := by decide

/-- Trimming the edges of lines drops the blank characters and breaks at both ends. -/
theorem marks_trimEdges (lines : List Line) :
  marks (trimEdges lines) = ((marks lines).dropWhile Mark.isBlank).rdropWhile Mark.isBlank
  := by
  rw [marks, marks, trimEdges_eq,
    dropWhile_intercalate isBlank_break Line.isBlank_eq_marks Line.marks_trimStart,
    rdropWhile_intercalate isBlank_break Line.isBlank_eq_marks Line.marks_trimEnd]

/-- The text of lines, with line feeds between them. -/
def textOf (lines : List Line) : String := "\n".intercalate (lines.map Line.text)

/-- The text of lines is that of their characters and breaks. -/
theorem toList_textOf (lines : List Line) :
  (textOf lines).toList = (marks lines).map Prod.fst
  := by
  have hline : ∀ line : Line, line.marks.map Prod.fst = line.text.toList := by
    intro line
    rw [Line.toList_text, Line.marks, List.map_map]
    rfl
  rw [textOf, String.toList_intercalate, marks, map_intercalate, List.map_map, List.map_map]
  congr 1
  apply List.map_congr_left
  intro line _
  rw [Function.comp_apply, Function.comp_apply, hline]

/-- The text of trimmed lines is the trimmed text of the lines. -/
theorem textOf_trimEdges (lines : List Line) :
  textOf (trimEdges lines) = Text.trim (textOf lines)
  := by
  rw [← String.toList_inj, toList_textOf, marks_trimEdges, Text.trim, String.toList_ofList,
    toList_textOf, Text.dropBlankEnd_eq, Text.dropBlankStart, List.dropWhile_map, rdropWhile_map]
  rfl

/-- Nothing is left of lines exactly if their text is blank. -/
theorem trimEdges_eq_nil_iff (lines : List Line) :
  trimEdges lines = [] ↔ Text.isBlankText (textOf lines)
  := by
  have hblank : Text.isBlankText (textOf lines) = lines.all Line.isBlank := by
    rw [Text.isBlankText, toList_textOf, List.all_map, marks,
      ← all_intercalate isBlank_break Line.isBlank_eq_marks]
    rfl
  rw [trimEdges_eq, clearBack_eq_nil_iff, ← List.all_eq_true, all_clearFront Line.isBlank_trimStart,
    hblank]

/-- Trimming the edges of trimmed lines changes nothing. -/
theorem trimEdges_trimEdges (lines : List Line) :
  trimEdges (trimEdges lines) = trimEdges lines
  := by
  rw [trimEdges_eq, trimEdges_eq,
    clearFront_clearBack Line.isBlank_trimStart Line.isBlank_trimEnd Line.trimStart_trimEnd,
    clearFront_idem Line.isBlank_trimStart Line.trimStart_trimStart,
    clearBack_idem Line.isBlank_trimEnd Line.trimEnd_trimEnd]

theorem map_modifyLast {α β : Type} {cut : α → α} {f : α → β} (h : ∀ a, f (cut a) = f a)
    (l : List α) :
  (modifyLast cut l).map f = l.map f
  := by
  induction l using List.reverseRecOn with
  | nil => rfl
  | append_singleton l a _ =>
    rw [modifyLast_concat, List.map_append, List.map_append, List.map_singleton,
      List.map_singleton, h]

theorem getElem?_modifyLast {α : Type} (cut : α → α) {l : List α} {i : Nat}
    (h : i + 1 < l.length) :
  (modifyLast cut l)[i]? = l[i]?
  := by
  induction l using List.reverseRecOn with
  | nil => rfl
  | append_singleton l a _ =>
    rw [List.length_append, List.length_singleton] at h
    rw [modifyLast_concat, List.getElem?_append_left (by omega),
      List.getElem?_append_left (by omega)]

/-- What trimming keeps of the lines: blank lines are dropped at both ends, the others keep their
styles, and those between the first and the last of them are kept as they are. -/
theorem exists_kept (lines : List Line) :
  ∃ front kept back, lines = front ++ kept ++ back
    ∧ (∀ line ∈ front ++ back, line.isBlank)
    ∧ (trimEdges lines).map Line.style = kept.map Line.style
    ∧ ∀ i, 0 < i → i + 1 < kept.length → (trimEdges lines)[i]? = kept[i]?
  := by
  use lines.takeWhile Line.isBlank, dropBlankLines lines,
    (lines.dropWhile Line.isBlank).rtakeWhile Line.isBlank
  have hkept : dropBlankLines lines = (lines.dropWhile Line.isBlank).rdropWhile Line.isBlank := rfl
  rw [List.append_assoc, hkept, List.rdropWhile_append_rtakeWhile, List.takeWhile_append_dropWhile]
  use rfl
  constructor
  · intro line hline
    rcases List.mem_append.mp hline with hline | hline
    · apply List.mem_takeWhile_imp hline
    · apply List.mem_rtakeWhile_imp hline
  rw [trimEdges, hkept]
  generalize (lines.dropWhile Line.isBlank).rdropWhile Line.isBlank = kept
  constructor
  · rw [map_modifyLast (fun line => by rw [Line.trimEnd_eq])]
    cases kept with
    | nil => rfl
    | cons line kept => rw [List.modifyHead_cons, List.map_cons, List.map_cons, Line.trimStart_eq]
  · intro i hi hlength
    rw [getElem?_modifyLast _ (by rwa [List.length_modifyHead])]
    cases kept with
    | nil => rfl
    | cons line kept =>
      obtain ⟨i, rfl⟩ := Nat.exists_eq_succ_of_ne_zero (Nat.ne_of_gt hi)
      rw [List.modifyHead_cons, List.getElem?_cons_succ, List.getElem?_cons_succ]

/-- Trimming styled lines is trimming their text.  The text of what is left is the trimmed text,
and each character of it, and each break between lines, is one of the lines as they were, in the
style that it had.  The lines that are left keep their own styles, and those between the first
and the last of them are kept as they are.  Nothing is left exactly if the text was blank, and
trimming again changes nothing. -/
theorem trimEdges_eq_trim (lines : List Line) :
  let trimmed := trimEdges lines
  textOf trimmed = Text.trim (textOf lines)
    ∧ marks trimmed = ((marks lines).dropWhile Mark.isBlank).rdropWhile Mark.isBlank
    ∧ (∃ front kept back, lines = front ++ kept ++ back
      ∧ (∀ line ∈ front ++ back, line.isBlank)
      ∧ trimmed.map Line.style = kept.map Line.style
      ∧ ∀ i, 0 < i → i + 1 < kept.length → trimmed[i]? = kept[i]?)
    ∧ (trimmed = [] ↔ Text.isBlankText (textOf lines))
    ∧ trimEdges trimmed = trimmed
  := ⟨textOf_trimEdges lines, marks_trimEdges lines, exists_kept lines,
    trimEdges_eq_nil_iff lines, trimEdges_trimEdges lines⟩

/-- Blanks hide in spans of their own at both ends of two lines; what is left keeps its style. -/
example :
    let red := Style.ofFg .red
    trimEdges [⟨[⟨"   ", red⟩], {}⟩, ⟨[⟨"", red⟩, ⟨"  hello", red⟩], {}⟩,
        ⟨[⟨"world  ", red⟩, ⟨" ", red⟩], {}⟩, ⟨[⟨"", red⟩], {}⟩]
      = [⟨[⟨"hello", red⟩], {}⟩, ⟨[⟨"world", red⟩], {}⟩] := by
  decide

end TaskConsole
