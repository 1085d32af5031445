import Mathlib.Data.List.DropRight
import TaskConsole.Text.HomePath

/-!
# Paths below the home directory, and back

A tilde stands for the home directory without the slashes at its end, and only where that directory
is the whole path or a slash follows it, so never for a part of a name
(`Text.abbreviateChars_cases`).  A path that has no tilde in front can therefore be read back from
what is shown of it (`Text.expandChars_abbreviateChars`), and two such paths are not shown alike.
-/

namespace TaskConsole.Text

/-- What may follow a directory in a path that is the directory or lies below it: nothing, or a
slash and more. -/
def LeadsBelow (rest : List Char) : Prop := rest = [] ∨ rest.head? = some '/'

instance (rest : List Char) : Decidable (LeadsBelow rest) := inferInstanceAs (Decidable (_ ∨ _))

/-- The path that a shown one stands for: a tilde in front is the directory. -/
def expandChars (directory : List Char) : List Char → List Char
  | '~' :: rest => directory ++ rest
  | shown => shown

/-- The path that a shown one stands for. -/
def expand (directory shown : String) : String :=
  String.ofList (expandChars directory.toList shown.toList)

theorem withoutSlashes_eq (directory : List Char) :
  withoutSlashes directory = directory.rdropWhile (· = '/')
  := rfl

theorem expandChars_of_head {directory shown : List Char} (h : shown.head? ≠ some '~') :
  expandChars directory shown = shown
  := by
  rw [expandChars]
  rintro rest rfl
  exact h rfl

section Home

variable {home : List Char} (hsome : withoutSlashes home ≠ [])

include hsome

/-- A path below the home directory is shown with a tilde for that directory. -/
theorem abbreviateChars_append {rest : List Char} (h : LeadsBelow rest) :
  abbreviateChars home (withoutSlashes home ++ rest) = '~' :: rest
  := by
  have hfront : (withoutSlashes home).isPrefixOf (withoutSlashes home ++ rest) = true :=
    List.isPrefixOf_iff_prefix.mpr (List.prefix_append _ _)
  have hnot : ((withoutSlashes home).isEmpty
      || !(withoutSlashes home).isPrefixOf (withoutSlashes home ++ rest)) = false := by
    rw [hfront, Bool.not_true, Bool.or_false, List.isEmpty_eq_false_iff]
    exact hsome
  simp only [abbreviateChars, hnot, Bool.false_eq_true, if_false, List.drop_left]
  cases rest with
  | nil => rfl
  | cons c rest =>
    obtain hnil | hhead := h
    · cases hnil
    · obtain rfl : c = '/' := Option.some.inj hhead
      rfl

omit hsome in
/-- Any other path is shown as it is. -/
theorem abbreviateChars_of_not_below {path : List Char}
    (h : ∀ rest, path = withoutSlashes home ++ rest → ¬ LeadsBelow rest) :
  abbreviateChars home path = path
  := by
  simp only [abbreviateChars]
  split
  · rfl
  next hnot =>
  rw [Bool.or_eq_true, not_or, Bool.not_eq_true', Bool.not_eq_false] at hnot
  obtain ⟨rest, rfl⟩ := List.isPrefixOf_iff_prefix.mp hnot.2
  have hrest := h rest rfl
  rw [List.drop_left]
  split
  · exact absurd (.inl rfl) hrest
  · exact absurd (.inr rfl) hrest
  · rfl

/-- Either a path is the home directory or lies below it, and is shown with a tilde in front of what
follows that directory in it, or it is shown as it is. -/
theorem abbreviateChars_cases (path : List Char) :
  (∃ rest, path = withoutSlashes home ++ rest ∧ LeadsBelow rest
      ∧ abbreviateChars home path = '~' :: rest)
    ∨ (∀ rest, path = withoutSlashes home ++ rest → ¬ LeadsBelow rest)
      ∧ abbreviateChars home path = path
  := by
  by_cases h : ∃ rest, path = withoutSlashes home ++ rest ∧ LeadsBelow rest
  · left
    obtain ⟨rest, rfl, hrest⟩ := h
    exact ⟨rest, rfl, hrest, abbreviateChars_append hsome hrest⟩
  · right
    have hnot : ∀ rest, path = withoutSlashes home ++ rest → ¬ LeadsBelow rest := by
      intro rest hpath hrest
      exact h ⟨rest, hpath, hrest⟩
    exact ⟨hnot, abbreviateChars_of_not_below hnot⟩

/-- A path without a tilde in front is read back from what is shown of it. -/
theorem expandChars_abbreviateChars {path : List Char} (h : path.head? ≠ some '~') :
  expandChars (withoutSlashes home) (abbreviateChars home path) = path
  := by
  obtain ⟨rest, hpath, -, hshown⟩ | ⟨-, hshown⟩ := abbreviateChars_cases hsome path
  · rw [hshown, hpath, expandChars]
  · rw [hshown, expandChars_of_head h]

/-- A path without a tilde in front is shown with one exactly if it is the home directory or lies
below it. -/
theorem abbreviateChars_eq_iff {path : List Char} (h : path.head? ≠ some '~') (rest : List Char) :
  abbreviateChars home path = '~' :: rest
    ↔ path = withoutSlashes home ++ rest ∧ LeadsBelow rest
  := by
  constructor
  · intro hshown
    obtain ⟨rest', hpath, hrest, hshown'⟩ | ⟨-, hshown'⟩ := abbreviateChars_cases hsome path
    · obtain rfl : rest' = rest := List.tail_eq_of_cons_eq (hshown'.symm.trans hshown)
      exact ⟨hpath, hrest⟩
    · rw [hshown'] at hshown
      rw [hshown] at h
      exact absurd rfl h
  · rintro ⟨rfl, hrest⟩
    apply abbreviateChars_append hsome hrest

end Home

theorem toList_abbreviate (home path : String) :
  (abbreviate (some home) path).toList = abbreviateChars home.toList path.toList
  := String.toList_ofList

/-- Let a home directory have a character other than the slashes at its end, and drop these.  The
path of what follows it, nothing or a slash and more, is shown as a tilde and that; and any other
path is shown as it is.  A path without a tilde in front is shown with one only in this way, is read
back by putting the directory in place of the tilde, and is not shown as another such path is. -/
theorem abbreviate_reversible {home : String} (hsome : home.toList.rdropWhile (· = '/') ≠ []) :
  let directory := String.ofList (home.toList.rdropWhile (· = '/'))
  let shown (path : String) := abbreviate (some home) path
  (∀ rest : String, LeadsBelow rest.toList → shown (directory ++ rest) = "~" ++ rest)
    ∧ (∀ path : String, (∀ rest : String, path = directory ++ rest → ¬ LeadsBelow rest.toList) →
      shown path = path)
    ∧ (∀ path rest : String, path.toList.head? ≠ some '~' →
      (shown path = "~" ++ rest ↔ path = directory ++ rest ∧ LeadsBelow rest.toList))
    ∧ (∀ path : String, path.toList.head? ≠ some '~' → expand directory (shown path) = path)
    ∧ ∀ path path' : String, path.toList.head? ≠ some '~' → path'.toList.head? ≠ some '~' →
      path ≠ path' → shown path ≠ shown path'
  := by
  intro directory shown
  have hdirectory : directory.toList = withoutSlashes home.toList := by
    rw [withoutSlashes_eq, String.toList_ofList]
  rw [← withoutSlashes_eq] at hsome
  have hpath (path rest : String) :
      path = directory ++ rest ↔ path.toList = withoutSlashes home.toList ++ rest.toList := by
    rw [← String.toList_inj, String.toList_append, hdirectory]
  have htilde (path rest : String) :
      shown path = "~" ++ rest ↔ abbreviateChars home.toList path.toList = '~' :: rest.toList := by
    rw [← String.toList_inj, toList_abbreviate, String.toList_append]
    exact Iff.rfl
  have hback (path : String) (h : path.toList.head? ≠ some '~') :
      expand directory (shown path) = path := by
    rw [expand, hdirectory, toList_abbreviate, expandChars_abbreviateChars hsome h,
      String.ofList_toList]
  refine ⟨?_, ?_, ?_, hback, ?_⟩
  · intro rest hrest
    rw [htilde, String.toList_append, hdirectory]
    apply abbreviateChars_append hsome hrest
  · intro path h
    rw [← String.toList_inj, toList_abbreviate]
    apply abbreviateChars_of_not_below
    intro rest hrest
    have hnot := h (String.ofList rest)
    rw [hpath, String.toList_ofList] at hnot
    apply hnot hrest
  · intro path rest h
    rw [htilde, hpath]
    apply abbreviateChars_eq_iff hsome h
  · intro path path' h h' hne hshown
    apply hne
    rw [← hback path h, hshown, hback path' h']

/-- A directory below a home directory that is given with two slashes at its end, and one beside it
whose name begins with the same letters. -/
theorem abbreviate_reversible_of_slashes :
  "/home/dev//".toList.rdropWhile (· = '/') ≠ []
    ∧ abbreviate (some "/home/dev//") "/home/dev//src" = "~//src"
    ∧ abbreviate (some "/home/dev//") "/home/developer" = "/home/developer"
    ∧ expand "/home/dev" (abbreviate (some "/home/dev//") "/home/dev//src") = "/home/dev//src"
  := by
  have hsome : "/home/dev//".toList.rdropWhile (· = '/') ≠ [] := by decide
  have hdirectory : String.ofList ("/home/dev//".toList.rdropWhile (· = '/')) = "/home/dev" := by
    decide
  obtain ⟨hbelow, hbeside, -, hback, -⟩ := abbreviate_reversible hsome
  simp only [hdirectory] at hbelow hbeside hback
  refine ⟨hsome, hbelow "//src" (by decide), ?_, hback "/home/dev//src" (by decide)⟩
  apply hbeside
  intro rest hpath
  have hchars : "/home/dev".toList ++ "eloper".toList = "/home/dev".toList ++ rest.toList := by
    have htexts := congrArg String.toList hpath
    rw [String.toList_append] at htexts
    exact htexts
  have hrest := List.append_cancel_left hchars
  rw [← hrest]
  decide

end TaskConsole.Text
