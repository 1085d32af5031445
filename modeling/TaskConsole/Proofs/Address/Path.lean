import Mathlib.Data.List.Basic
import TaskConsole.Address.Reader

/-!
# Paths that go on

The segments of a path behind which a slash follows are those of a folder (`Address.folder`),
whatever comes behind the slash: a name is one segment more (`Address.segments_name`), and
slashes are empty ones (`Address.segments_slashes`).  Adding a name to the segments of a path
leaves out an empty one at the end, so it puts the name where it stands in the folder only if the
path ends with the right number of slashes (`Address.addSegment_path_iff`).
-/

namespace TaskConsole

namespace Name

variable {separates : Char → Bool}

/-- At a separator a new piece begins. -/
theorem pieces_cons {c : Char} (h : separates c = true) (cs : List Char) :
  pieces separates (c :: cs) = [] :: pieces separates cs
  := if_pos h

/-- Characters have one piece at least. -/
theorem pieces_ne_nil (separates : Char → Bool) (cs : List Char) :
  pieces separates cs ≠ []
  := by
  cases cs with
  | nil => apply List.cons_ne_nil
  | cons c cs =>
    rw [pieces, List.foldr_cons]
    split
    · apply List.cons_ne_nil
    · split
      · apply List.cons_ne_nil
      · apply List.cons_ne_nil

/-- Any other character belongs to the first piece. -/
theorem exists_pieces_eq {c : Char} (h : separates c = false) (cs : List Char) :
  ∃ piece rest, pieces separates cs = piece :: rest
    ∧ pieces separates (c :: cs) = (c :: piece) :: rest
  := by
  obtain ⟨piece, rest, hcs⟩ := List.exists_cons_of_ne_nil (pieces_ne_nil separates cs)
  use piece, rest, hcs
  rw [pieces] at hcs
  rw [pieces, List.foldr_cons, hcs, h]
  rfl

/-- Behind a separator the pieces are those of what follows. -/
theorem pieces_append {c : Char} (h : separates c = true) (cs rest : List Char) :
  pieces separates (cs ++ c :: rest) = pieces separates cs ++ pieces separates rest
  := by
  induction cs with
  | nil => exact pieces_cons h rest
  | cons d cs ih =>
    cases hd : separates d with
    | true => rw [List.cons_append, pieces_cons hd, pieces_cons hd, ih, List.cons_append]
    | false =>
      obtain ⟨piece, others, hcs, hpieces⟩ := exists_pieces_eq hd cs
      obtain ⟨piece', others', hcs', hpieces'⟩ := exists_pieces_eq hd (cs ++ c :: rest)
      rw [hcs, hcs', List.cons_append] at ih
      obtain ⟨rfl, rfl⟩ := List.cons_eq_cons.mp ih
      rw [List.cons_append, hpieces, hpieces', List.cons_append]

/-- A character at the end that is no separator belongs to the last piece. -/
theorem exists_pieces_concat_eq {c : Char} (h : separates c = false) (cs : List Char) :
  ∃ front last, pieces separates (cs ++ [c]) = front ++ [last ++ [c]]
  := by
  induction cs with
  | nil =>
    obtain ⟨piece, rest, hnil, hpieces⟩ := exists_pieces_eq h []
    obtain ⟨rfl, rfl⟩ := List.cons_eq_cons.mp hnil
    exact ⟨[], [], hpieces⟩
  | cons d cs ih =>
    obtain ⟨front, last, hlast⟩ := ih
    cases hd : separates d with
    | true =>
      use [] :: front, last
      rw [List.cons_append, pieces_cons hd, hlast, List.cons_append]
    | false =>
      obtain ⟨piece, rest, hcs, hpieces⟩ := exists_pieces_eq hd (cs ++ [c])
      rw [hlast] at hcs
      cases front with
      | nil =>
        obtain ⟨rfl, rfl⟩ := List.cons_eq_cons.mp hcs
        exact ⟨[], d :: last, hpieces⟩
      | cons first front =>
        obtain ⟨rfl, rfl⟩ := List.cons_eq_cons.mp hcs
        exact ⟨(d :: first) :: front, last, hpieces⟩

/-- The last piece is empty exactly if nothing stands behind the last separator. -/
theorem getLast?_pieces_iff (cs : List Char) :
  (pieces separates cs).getLast? = some [] ↔ ∀ c ∈ cs.getLast?, separates c = true
  := by
  rcases List.eq_nil_or_concat cs with rfl | ⟨front, c, rfl⟩
  · exact ⟨fun _ _ hc => (Option.not_mem_none _ hc).elim, fun _ => rfl⟩
  · have hlast : (∀ d ∈ (front ++ [c]).getLast?, separates d = true)
        ↔ separates c = true := by
      rw [List.getLast?_concat]
      exact ⟨fun h => h c rfl, fun h d hd => Option.some.inj hd ▸ h⟩
    rw [List.concat_eq_append, hlast]
    cases hc : separates c with
    | true =>
      rw [pieces_append hc]
      exact ⟨fun _ => rfl, fun _ => List.getLast?_concat⟩
    | false =>
      obtain ⟨others, last, hpieces⟩ := exists_pieces_concat_eq hc front
      rw [hpieces, List.getLast?_concat]
      simp

end Name

namespace Address

/-- The segments above what follows, the last one first, behind one more segment. -/
def enter (above : List (List Char)) (segment : List Char) : List (List Char) :=
  if isAbove segment then
    if above.head?.any startsWithDrive then above else above.drop 1
  else if isHere segment then above
  else segment :: above

/-- Segments that others follow are entered. -/
theorem resolve_append (above segments : List (List Char)) {rest : List (List Char)}
    (h : rest ≠ []) :
  resolve id above (segments ++ rest) = resolve id (segments.foldl enter above) rest
  := by
  induction segments generalizing above with
  | nil => rfl
  | cons segment segments ih =>
    have hmore : (segments ++ rest).isEmpty = false := by
      rw [List.isEmpty_eq_false_iff]
      intro hnil
      exact h (List.append_eq_nil_iff.mp hnil).2
    rw [List.cons_append, resolve, hmore, List.foldl_cons, enter]
    simp only [Bool.false_eq_true, if_false, id_eq, ite_self]
    split
    · apply ih
    · split
      · apply ih
      · apply ih

/-- The last segment is empty if it names a place. -/
theorem resolve_singleton (above : List (List Char)) (segment : List Char) :
  resolve id above [segment]
    = if isAbove segment || isHere segment then (enter above segment).reverse ++ [[]]
      else (enter above segment).reverse
  := by
  have hlast : ([] : List (List Char)).isEmpty = true := rfl
  rw [resolve, enter, hlast]
  simp only [if_true, id_eq, ite_self, resolve]
  cases isAbove segment with
  | true => apply List.reverse_cons
  | false =>
    cases isHere segment with
    | true => apply List.reverse_cons
    | false => rfl

/-- Empty segments stay. -/
theorem resolve_replicate (above : List (List Char)) (n : Nat) :
  resolve id above (List.replicate n []) = above.reverse ++ List.replicate n []
  := by
  have hplain : isAbove [] = false ∧ isHere [] = false := by decide
  induction n generalizing above with
  | zero => exact (List.append_nil _).symm
  | succ n ih =>
    rw [List.replicate_succ, resolve, hplain.1, hplain.2]
    simp only [Bool.false_eq_true, if_false, id_eq, ite_self]
    rw [ih, List.reverse_cons, List.append_assoc, List.singleton_append]

/-! ### Folders -/

/-- The segments that a path behind a host names: they stand behind its first slash. -/
def pathSegments : List Char → List (List Char)
  | [] => []
  | _ :: rest => (Name.pieces (isSlash true) rest).map (Percent.encode Percent.inPath)

/-- The segments of a path once another follows. -/
def folder (path : List Char) : List (List Char) :=
  ((pathSegments path).foldl enter []).reverse

/-- Whether characters are one segment that is written as it is and names no other place. -/
def IsName (name : List Char) : Prop :=
  (Name.pieces (isSlash true) name).map (Percent.encode Percent.inPath) = [name]
    ∧ isAbove name = false ∧ isHere name = false

/-- Behind a slash further segments follow. -/
theorem pathSegments_append (path rest : List Char) :
  pathSegments (path ++ '/' :: rest)
    = pathSegments path
      ++ (Name.pieces (isSlash true) rest).map (Percent.encode Percent.inPath)
  := by
  cases path with
  | nil => rfl
  | cons c path =>
    rw [List.cons_append, pathSegments, pathSegments, Name.pieces_append rfl, List.map_append]

/-- Written characters are none only if there were none. -/
theorem encode_eq_nil_iff (barred : Char → Bool) (cs : List Char) :
  Percent.encode barred cs = [] ↔ cs = []
  := by
  constructor
  · intro h
    cases cs with
    | nil => rfl
    | cons c cs =>
      have hnil := (List.append_eq_nil_iff.mp h).1
      rw [Percent.encodeChar] at hnil
      split at hnil
      · obtain ⟨b, hb⟩ := List.exists_mem_of_ne_nil _ (String.utf8EncodeChar_ne_nil (c := c))
        cases List.flatMap_eq_nil_iff.mp hnil b hb
      · cases hnil
  · rintro rfl
    rfl

/-- A path behind a host has a last segment, which is empty exactly if the path ends with a
slash. -/
theorem exists_pathSegments_eq {c : Char} (hslash : isSlash true c = true) (path : List Char) :
  ∃ front last, pathSegments (c :: path) = front ++ [last]
    ∧ (last = [] ↔ ∀ d ∈ (c :: path).getLast?, isSlash true d = true)
  := by
  have hends : (∀ d ∈ (c :: path).getLast?, isSlash true d = true)
      ↔ ∀ d ∈ path.getLast?, isSlash true d = true := by
    cases path with
    | nil => exact ⟨fun _ d hd => (Option.not_mem_none d hd).elim,
        fun _ d hd => Option.some.inj hd ▸ hslash⟩
    | cons d path => rw [List.getLast?_cons_cons]
  rcases List.eq_nil_or_concat (Name.pieces (isSlash true) path) with
    hnil | ⟨front, last, hlast⟩
  · exact absurd hnil (Name.pieces_ne_nil _ path)
  · rw [List.concat_eq_append] at hlast
    use front.map (Percent.encode Percent.inPath), Percent.encode Percent.inPath last
    constructor
    · rw [pathSegments, hlast, List.map_append]
      rfl
    · rw [encode_eq_nil_iff, hends, ← Name.getLast?_pieces_iff, hlast, List.getLast?_concat,
        Option.some.injEq]

section Web

variable {scheme : List Char} (hweb : isWeb scheme = true) (hfile : scheme ≠ fileScheme)
include hweb hfile

/-- The segments of a path behind the host of a web address. -/
theorem segmentsBehindHost_eq {path : List Char} (hsome : path ≠ [])
    (hslash : ∀ c ∈ path.head?, isSlash true c = true) :
  segmentsBehindHost scheme path = resolve id [] (pathSegments path)
  := by
  cases path with
  | nil => exact absurd rfl hsome
  | cons c path =>
    rw [segmentsBehindHost, hweb, hslash c rfl, if_pos rfl, segmentsOf, if_neg hfile, hweb]
    rfl

/-- Behind a folder that goes on its segments come first. -/
theorem segments_append {path : List Char} (hslash : ∀ c ∈ path.head?, isSlash true c = true)
    (rest : List Char) :
  segmentsBehindHost scheme (path ++ '/' :: rest)
    = resolve id ((pathSegments path).foldl enter [])
      ((Name.pieces (isSlash true) rest).map (Percent.encode Percent.inPath))
  := by
  have hslash' : ∀ c ∈ (path ++ '/' :: rest).head?, isSlash true c = true := by
    cases path with
    | nil =>
      intro c hc
      rw [← Option.some.inj hc]
      rfl
    | cons c path => exact hslash
  have hsome : path ++ '/' :: rest ≠ [] := by
    apply List.append_ne_nil_of_right_ne_nil
    apply List.cons_ne_nil
  rw [segmentsBehindHost_eq hweb hfile hsome hslash', pathSegments_append]
  apply resolve_append
  rw [ne_eq, List.map_eq_nil_iff]
  apply Name.pieces_ne_nil

/-- A name in a folder is the last segment. -/
theorem segments_name {path name : List Char} (hslash : ∀ c ∈ path.head?, isSlash true c = true)
    (hname : IsName name) :
  segmentsBehindHost scheme (path ++ '/' :: name) = folder path ++ [name]
  := by
  obtain ⟨hpieces, habove, hhere⟩ := hname
  rw [segments_append hweb hfile hslash, hpieces, resolve_singleton, enter, habove, hhere]
  apply List.reverse_cons

/-- Slashes behind a folder are empty segments. -/
theorem segments_slashes {path : List Char} (hslash : ∀ c ∈ path.head?, isSlash true c = true)
    (n : Nat) :
  segmentsBehindHost scheme (path ++ List.replicate (n + 1) '/')
    = folder path ++ List.replicate (n + 1) []
  := by
  have hpieces : (Name.pieces (isSlash true) (List.replicate n '/')).map
      (Percent.encode Percent.inPath) = List.replicate (n + 1) [] := by
    induction n with
    | zero => rfl
    | succ n ih => rw [List.replicate_succ, Name.pieces_cons rfl, List.map_cons, ih]; rfl
  rw [List.replicate_succ, segments_append hweb hfile hslash, hpieces, resolve_replicate, folder]

/-- Where nothing follows, the last segment of the folder stands at the end, unless it names a
place. -/
theorem segments_end {path : List Char} (hslash : ∀ c ∈ path.head?, isSlash true c = true) :
  (segmentsBehindHost scheme path = folder path ++ [[]]
      ∧ ∀ c ∈ path.getLast?, isSlash true c = false)
    ∨ ∃ front last, folder path = front ++ [last]
      ∧ segmentsBehindHost scheme path = folder path
      ∧ (last = [] ↔ ∀ c ∈ path.getLast?, isSlash true c = true)
  := by
  cases path with
  | nil =>
    left
    rw [segmentsBehindHost, hweb]
    exact ⟨rfl, fun c hc => (Option.not_mem_none c hc).elim⟩
  | cons c path =>
    obtain ⟨front, last, hlast, hempty⟩ := exists_pathSegments_eq (hslash c rfl) path
    rw [segmentsBehindHost_eq hweb hfile (List.cons_ne_nil c path) hslash, folder, hlast,
      resolve_append _ _ (List.cons_ne_nil last []), resolve_singleton, List.foldl_concat]
    generalize front.foldl enter [] = above
    cases hplace : isAbove last || isHere last with
    | true =>
      left
      use rfl
      intro d hd
      rw [← Bool.not_eq_true]
      intro hd'
      have hnil : last = [] := by
        rw [hempty]
        intro d' hd''
        rw [← Option.some.inj (hd.symm.trans hd'')]
        apply hd'
      rw [hnil] at hplace
      revert hplace
      decide
    | false =>
      right
      obtain ⟨habove, hhere⟩ := Bool.or_eq_false_iff.mp hplace
      use above.reverse, last
      rw [enter, habove, hhere]
      exact ⟨List.reverse_cons, rfl, hempty⟩

end Web

/-! ### One segment more -/

/-- Whether a text is added to a path as it is: it is not dots alone, addresses see all of its
characters, and none of them is written with percent signs. -/
structure IsPlain (web : Bool) (text : List Char) : Prop where
  here : text ≠ ['.']
  above : text ≠ ['.', '.']
  seen : text.filter (fun c => !isUnseen c) = text
  written : Percent.encode (Percent.inSegment web) text = text

/-- A text that is added as it is becomes one segment more; in a file, there are then no empty ones
at the start. -/
theorem push_of_isPlain {scheme text : List Char} (h : IsPlain (isWeb scheme) text)
    (list : List (List Char)) :
  push scheme list text
    = if scheme = fileScheme then withoutEmptyStart (addSegment true list text)
      else addSegment false list text
  := by
  have hdots : ¬(text = ['.'] || text = ['.', '.']) = true := by
    simp [h.here, h.above]
  rw [push, if_neg hdots]
  simp only [h.seen, h.written, if_neg h.above, if_neg h.here]
  by_cases hfile : scheme = fileScheme
  · simp [hfile]
  · simp [hfile]

/-- An empty segment at the end is left out, unless it is the only one. -/
theorem withoutEmptyEnd_concat (list : List (List Char)) (last : List Char) :
  withoutEmptyEnd (list ++ [last]) = if list ≠ [] ∧ last = [] then list else list ++ [last]
  := by
  rcases list with _ | ⟨first, rest⟩
  · exact (if_neg fun h => h.1 rfl).symm
  · have hsome : rest ++ [last] ≠ [] := by
      apply List.append_ne_nil_of_right_ne_nil
      apply List.cons_ne_nil
    obtain ⟨next, more, hrest⟩ := List.exists_cons_of_ne_nil hsome
    rw [List.cons_append, hrest, withoutEmptyEnd, ← hrest, ← List.cons_append,
      List.getLast?_concat, List.dropLast_concat]
    · simp
    · apply List.cons_ne_nil

/-- Segments of which the last one is not empty end differently from those of which it is. -/
theorem concat_ne_concat_nil {last : List Char} (h : last ≠ []) (front other : List (List Char)) :
  front ++ [last] ≠ other ++ [[]]
  := by
  intro hsame
  exact h (List.singleton_inj.mp (List.append_inj_right' hsame rfl))

/-- Behind a folder one more segment stands in it, unless the last segment of the folder is
empty. -/
theorem addSegment_self_iff (front : List (List Char)) (last name : List Char) :
  addSegment false (withoutEmptyEnd (front ++ [last])) name = front ++ [last] ++ [name]
    ↔ last ≠ []
  := by
  constructor
  · rintro h rfl
    have hlength := congrArg List.length h
    rw [withoutEmptyEnd_concat, addSegment] at hlength
    by_cases hfront : front = []
    · simp [hfront] at hlength
    · by_cases hone : front = [[]]
      · simp [hone] at hlength
      · simp [hfront, hone] at hlength
  · intro hlast
    have hother : front ++ [last] ≠ [[]] := concat_ne_concat_nil hlast front []
    rw [withoutEmptyEnd_concat, if_neg fun hnil => hlast hnil.2, addSegment, if_neg hother]

/-- Behind empty segments one more segment stands in the folder exactly if there is one of them,
or there are two and no others. -/
theorem addSegment_slashes_iff (list : List (List Char)) (n : Nat) (name : List Char) :
  addSegment false (withoutEmptyEnd (list ++ List.replicate (n + 1) [])) name = list ++ [name]
    ↔ n = 0 ∧ list ≠ [[]] ∨ n = 1 ∧ list = []
  := by
  rw [List.replicate_succ', ← List.append_assoc, withoutEmptyEnd_concat, addSegment]
  rcases n with _ | _ | n
  · by_cases hnil : list = []
    · simp [hnil]
    · by_cases hone : list = [[]]
      · simp [hone]
      · simp [hnil, hone]
  · by_cases hnil : list = []
    · simp [hnil]
    · simp [hnil]
  · constructor
    · intro h
      have hlength := congrArg List.length h
      by_cases hone : list ++ List.replicate (n + 2) [] = [[]]
      · have hlength' := congrArg List.length hone
        simp at hlength'
        omega
      · simp [hone] at hlength
    · rintro (⟨hzero, -⟩ | ⟨hone, -⟩)
      · omega
      · omega

/-- Two empty segments are one with another behind it. -/
theorem concat_nil_eq_iff (list : List (List Char)) :
  list ++ [[]] = [[], []] ↔ list = [[]]
  := by
  have hends : [[], []] = [[]] ++ [([] : List Char)] := rfl
  rw [hends, List.append_left_inj]

/-- A path that does not end with a slash ends with a backslash or with another character. -/
theorem backslash_notMem_iff {path : List Char} (hsome : path ≠ [])
    (hend : '/' ∉ path.getLast?) :
  '\\' ∉ path.getLast? ↔ ¬ ∀ c ∈ path.getLast?, isSlash true c = true
  := by
  rw [not_iff_not]
  constructor
  · intro hmem c hc
    rw [← Option.some.inj (hmem.symm.trans hc)]
    rfl
  · intro hall
    cases hc : path.getLast? with
    | none => exact absurd (List.getLast?_eq_none_iff.mp hc) hsome
    | some c =>
      have hslash := hall c hc
      rw [isSlash, Bool.true_and, Bool.or_eq_true, decide_eq_true_iff,
        decide_eq_true_iff] at hslash
      rcases hslash with rfl | rfl
      · cases hend hc
      · rfl

section Web

variable {scheme : List Char} (hweb : isWeb scheme = true) (hfile : scheme ≠ fileScheme)
  {path name : List Char} (hslash : ∀ c ∈ path.head?, isSlash true c = true)
include hweb hfile hslash

/-- Behind a path without a slash at its end, one more segment stands in its folder, unless the
path ends with a backslash or is nothing but two empty segments. -/
theorem addSegment_bare_iff (hend : '/' ∉ path.getLast?) :
  addSegment false (withoutEmptyEnd (segmentsBehindHost scheme path)) name = folder path ++ [name]
    ↔ '\\' ∉ path.getLast? ∧ segmentsBehindHost scheme path ≠ [[], []]
  := by
  rcases segments_end hweb hfile hslash with
    ⟨hpath, hplace⟩ | ⟨front, last, hfolder, hpath, hlast⟩
  · have hmore := addSegment_slashes_iff (folder path) 0 name
    rw [List.replicate_one] at hmore
    have hbackslash : '\\' ∉ path.getLast? := by
      intro hmem
      exact absurd (hplace _ hmem) (by decide)
    rw [hpath, hmore, ne_eq (_ ++ _), concat_nil_eq_iff]
    simp [hbackslash]
  · have hsome : path ≠ [] := by
      rintro rfl
      cases List.append_ne_nil_of_right_ne_nil front (List.cons_ne_nil last []) hfolder.symm
    rw [hpath, hfolder, addSegment_self_iff, backslash_notMem_iff hsome hend, ← hlast]
    exact ⟨fun hother => ⟨hother, concat_ne_concat_nil hother front [[]]⟩, And.left⟩

/-- Behind a path with slashes at its end, one more segment stands where it does behind the path
and a single slash, exactly if there is no more than one slash, or there are two and nothing but
them. -/
theorem addSegment_path_iff (hname : IsName name) {n : Nat}
    (hend : n = 0 → '/' ∉ path.getLast?) :
  segmentsBehindHost scheme (path ++ '/' :: name)
      = addSegment false
        (withoutEmptyEnd (segmentsBehindHost scheme (path ++ List.replicate n '/'))) name
    ↔ (n = 0 → '\\' ∉ path.getLast?)
      ∧ (n ≤ 1 ∧ segmentsBehindHost scheme (path ++ List.replicate n '/') ≠ [[], []]
        ∨ n = 2 ∧ segmentsBehindHost scheme (path ++ List.replicate n '/') = [[], []])
  := by
  rw [segments_name hweb hfile hslash hname, eq_comm]
  rcases n with _ | n
  · rw [List.replicate_zero, List.append_nil, addSegment_bare_iff hweb hfile hslash (hend rfl)]
    simp
  · rw [segments_slashes hweb hfile hslash, addSegment_slashes_iff]
    rcases n with _ | _ | n
    · rw [List.replicate_one, ne_eq (_ ++ _), concat_nil_eq_iff]
      simp
    · have hends : List.replicate (1 + 1) ([] : List Char) = [[], []] := rfl
      rw [hends]
      simp
    · simp

end Web

end Address

end TaskConsole
