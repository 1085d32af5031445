import Mathlib.Algebra.BigOperators.Group.List.Basic
import Mathlib.Algebra.Order.BigOperators.Group.List
import Mathlib.Algebra.Order.Ring.Nat
import TaskConsole.Text.Cluster

/-!
# The columns of a text

A text is cut into clusters without loss (`Text.clusters_sound`), and a cluster takes no more
columns than its characters would take alone, if each of them were to take one at least
(`Text.columnsOf_le`).  A character that takes more columns with those behind it than alone owes
them to one that takes fewer: what follows a character keeps account of the columns to spare
(`Text.Following.spare`).
-/

namespace TaskConsole.Text

/-- The columns of a character alone, or one if it takes none. -/
def breadth (c : Char) : Nat := max 1 (alone c).1.toNat

/-- The columns of a text on the screen: those of its clusters, where a line feed alone is none. -/
def columns (cs : List Char) : Nat :=
  (((clusters cs).filter fun cluster => cluster != ['\n']).map columnsOf).sum

/-! ### Characters in clusters -/

/-- No character is counted for more than three columns. -/
theorem breadth_le (c : Char) :
  breadth c ≤ 3
  := by
  have halone : (alone c).1 ≤ 3 := by
    rw [alone]
    repeat' split
    all_goals decide
  rw [breadth]
  omega

/-- The columns to spare behind a character: one where a sign asks for the coloured form, and two
where an even number of letters of flags is joined to a picture. -/
def Following.spare (next : Following) : Int :=
  (if next.coloured = some true then 1 else 0)
    + if next.sign = .joinedLetters true then 2 else 0

theorem spare_nonneg (next : Following) :
  0 ≤ next.spare
  := by
  rw [Following.spare]
  split <;> split <;> decide

/-- Nothing is to spare behind what asks for no form and is no even number of joined letters. -/
theorem spare_of_sign {sign : Behind} (h : sign ≠ .joinedLetters true) :
  Following.spare { sign := sign } = 0
  := by
  rw [Following.spare, if_neg h]
  rfl

/-- A sign that asks for a form leaves one column to spare at most. -/
theorem spare_withForm_le (next : Following) (coloured : Bool) :
  (next.withForm coloured).spare ≤ 1
  := by
  have hsign : (next.withForm coloured).sign ≠ .joinedLetters true := by
    rw [Following.withForm]
    cases next.sign with
    | joined => cases coloured <;> simp
    | joinedKey => cases coloured <;> simp
    | _ => simp
  rw [Following.spare, if_neg hsign]
  split <;> decide

/-- No column to spare is lost where an even number of letters is joined to a picture. -/
theorem spare_of_withoutForm {next : Following}
    (h : next.withoutForm.sign = .joinedLetters true) :
  2 ≤ next.spare
  := by
  rw [Following.withoutForm] at h
  split at h
  · next hkept =>
    simp only [Bool.or_eq_true, decide_eq_true_iff] at hkept
    rcases hkept with hnone | hsubscript
    · rw [Following.spare, if_pos h, hnone]
      decide
    · rw [hsubscript] at h
      cases h
  · cases h

/-- Alone, a character leaves nothing to spare, and takes no more columns than are counted. -/
theorem alone_le (c : Char) :
  (alone c).1 + (alone c).2.spare ≤ breadth c
  := by
  have hspare : (alone c).2.spare = 0 := by
    rw [alone]
    repeat' split
    all_goals rfl
  rw [hspare, breadth]
  omega

/-- Where those behind it change the columns of a character, it takes and leaves to spare one more
than was to spare before, at most. -/
theorem joinedColumns?_le {c : Char} {next : Following} {columns : Int} {sign : Behind}
    (h : joinedColumns? c next.withoutForm.sign = some (columns, sign)) :
  columns + Following.spare { sign := sign } ≤ 1 + next.spare
  := by
  have hspare := spare_nonneg next
  -- where no even number of letters is joined, one column is all that there can be
  have hone : columns ≤ 1 → sign ≠ .joinedLetters true →
      columns + Following.spare { sign := sign } ≤ 1 + next.spare := by
    intro hle hsign
    rw [spare_of_sign hsign]
    omega
  cases hbehind : next.withoutForm.sign with
  | joinedLetter =>
    rw [hbehind, joinedColumns?] at h
    split at h
    · cases h
      have htwo : Following.spare { sign := .joinedLetters true } = 2 := rfl
      omega
    · cases h
  | joinedLetters even =>
    rw [hbehind, joinedColumns?] at h
    split at h
    · cases h
      cases even with
      | true =>
        have htwo := spare_of_withoutForm hbehind
        have hnone : Following.spare { sign := .joinedLetters false } = 0 := rfl
        simp only [if_true, Bool.not_true]
        omega
      | false =>
        have htwo : Following.spare { sign := .joinedLetters true } = 2 := rfl
        simp only [Bool.false_eq_true, if_false, Bool.not_false]
        omega
    · split at h
      · cases h
        exact hone (by decide) (by decide)
      · cases h
  | _ =>
    rw [hbehind, joinedColumns?] at h
    repeat' split at h
    all_goals first
      | cases h; exact hone (by decide) (by simp)
      | cases h

/-- A character in front of others takes no more columns, together with those that it leaves to
spare, than are counted for it and were to spare before. -/
theorem addedColumns_le (c : Char) (next : Following) :
  (addedColumns c next).1 + (addedColumns c next).2.spare ≤ breadth c + next.spare
  := by
  have hspare := spare_nonneg next
  have hbreadth : 1 ≤ (breadth c : Int) := Int.ofNat_le.mpr (Nat.le_max_left _ _)
  have hnone : ∀ sign, sign ≠ .joinedLetters true → Following.spare { sign := sign } = 0 :=
    fun _ => spare_of_sign
  rw [addedColumns]
  split
  · next hform =>
    -- the second column of the coloured form is that of the sign that asks for it
    have hcoloured : 1 ≤ next.spare := by
      simp only [Bool.and_eq_true, decide_eq_true_iff] at hform
      rw [Following.spare, if_pos hform.1]
      split <;> decide
    simp only [hnone .picture (by decide)]
    split <;> omega
  split
  · simp only [hnone .other (by decide)]
    omega
  simp only
  split
  · split
    · simp only [hnone .lineFeed (by decide)]
      omega
    split
    · simp only [hnone .other (by decide)]
      omega
    · simp only [hnone .other (by decide)]
      omega
  split
  · have hle := spare_withForm_le next.withoutForm true
    simp only
    omega
  split
  · have hle := spare_withForm_le next.withoutForm false
    simp only
    omega
  split
  · next hjoined =>
    have hle := joinedColumns?_le hjoined
    simp only
    omega
  · have hle := alone_le c
    omega

/-- The columns of the characters so far, and what follows the one before them, when a character
is added in front. -/
def addColumns (c : Char) (s : Int × Following) : Int × Following :=
  (s.1 + (addedColumns c s.2).1, (addedColumns c s.2).2)

theorem columnsOf_eq (cluster : List Char) :
  columnsOf cluster = (cluster.foldr addColumns (0, {})).1.toNat
  := rfl

/-- Characters take no more columns, together with those that they leave to spare, than they are
counted for. -/
theorem foldr_addColumns_le (cs : List Char) :
  (cs.foldr addColumns (0, {})).1 + (cs.foldr addColumns (0, {})).2.spare ≤ (cs.map breadth).sum
  := by
  induction cs with
  | nil => exact le_rfl
  | cons c cs ih =>
    have hstep := addedColumns_le c (cs.foldr addColumns (0, {})).2
    simp only [List.foldr_cons, List.map_cons, List.sum_cons, addColumns]
    omega

/-- A cluster takes no more columns than its characters are counted for. -/
theorem columnsOf_le (cluster : List Char) :
  columnsOf cluster ≤ (cluster.map breadth).sum
  := by
  have hle := foldr_addColumns_le cluster
  have hspare := spare_nonneg (cluster.foldr addColumns (0, {})).2
  rw [columnsOf_eq]
  omega

/-! ### Cutting -/

/-- Whether a control character in a cluster stands alone, or is a carriage return with a line
feed behind it. -/
def IsClosed (cluster : List Char) : Prop :=
  ∀ c ∈ cluster, clusterClass c = .control → cluster = [c] ∨ cluster = ['\r', '\n']

/-- What the cutting of a text keeps: the context of the open cluster is that of its last character,
no cluster is finished before one is open, and control characters stand alone in all clusters. -/
structure Cutting.IsSound (s : Cutting) : Prop where
  context : s.current ≠ [] → ∃ x, s.context = some x ∧
    ∀ c ∈ s.current.head?, x.last = clusterClass c
  opened : s.current = [] → s.done = []
  current : IsClosed s.current.reverse
  done : ∀ cluster ∈ s.done, IsClosed cluster

/-- The characters that have been cut, in order. -/
def Cutting.chars (s : Cutting) : List Char := s.done.reverse.flatten ++ s.current.reverse

theorem isClosed_singleton (c : Char) :
  IsClosed [c]
  := by
  intro d hd _
  rw [List.mem_singleton.mp hd]
  exact .inl rfl

/-- Where a control character stands in a cluster, the last one is a control character. -/
theorem IsClosed.class_last {last : Char} {before : List Char}
    (h : IsClosed (last :: before).reverse) {c : Char} (hc : c ∈ (last :: before).reverse)
    (hcontrol : clusterClass c = .control) :
  clusterClass last = .control
  := by
  rcases h c hc hcontrol with hone | htwo
  · rw [List.reverse_eq_iff] at hone
    rw [(List.cons.inj hone).1]
    exact hcontrol
  · rw [List.reverse_eq_iff] at htwo
    rw [(List.cons.inj htwo).1]
    rfl

/-- No control character joins a cluster, and nothing joins one behind a control character. -/
theorem Context.joins_control {x : Context} {k : ClusterClass} (h : x.joins k = true) :
  x.last ≠ .control ∧ k ≠ .control
  := by
  rw [← not_or]
  intro hcontrol
  rw [joins.eq_def, if_pos (by simpa using hcontrol)] at h
  cases h

/-- A character that joins the open cluster keeps it closed, and so does a line feed behind a
carriage return. -/
theorem IsClosed.cons {last c : Char} {before : List Char} {x : Context}
    (h : IsClosed (last :: before).reverse) (hlast : x.last = clusterClass last)
    (hjoins : (x.joins (clusterClass c) || last = '\r' && c = '\n') = true) :
  IsClosed (c :: last :: before).reverse
  := by
  rw [List.reverse_cons]
  by_cases hjoined : x.joins (clusterClass c) = true
  · obtain ⟨hbefore, hnew⟩ := Context.joins_control hjoined
    rw [hlast] at hbefore
    intro d hd hcontrol
    rcases List.mem_append.mp hd with hearlier | hlater
    · exact absurd (h.class_last hearlier hcontrol) hbefore
    · rw [List.mem_singleton.mp hlater] at hcontrol
      exact absurd hcontrol hnew
  · simp only [hjoined, Bool.false_or, Bool.and_eq_true, decide_eq_true_iff] at hjoins
    obtain ⟨rfl, rfl⟩ := hjoins
    have hreturn : '\r' ∈ ('\r' :: before).reverse :=
      List.mem_reverse.mpr List.mem_cons_self
    intro d _ _
    right
    rcases h '\r' hreturn rfl with hone | htwo
    · rw [hone]
      rfl
    · -- the carriage return would be the line feed at the end
      rw [List.reverse_eq_iff] at htwo
      cases (List.cons.inj htwo).1

/-- Cutting goes on soundly, and loses no character. -/
theorem Cutting.IsSound.add {s : Cutting} (h : s.IsSound) (c : Char) :
  (s.add c).IsSound ∧ (s.add c).chars = s.chars ++ [c]
  := by
  have hstart : ∀ d ∈ [c].head?, (Context.start (clusterClass c)).last = clusterClass d := by
    intro d hd
    rw [← Option.some.inj hd]
    rfl
  cases hcurrent : s.current with
  | nil =>
    have hadd : s.add c = { s with current := [c], context := some (.start (clusterClass c)) } := by
      rw [Cutting.add, hcurrent]
      cases s.context with
      | _ => rfl
    rw [hadd]
    refine ⟨⟨fun _ => ⟨_, rfl, hstart⟩, nofun, isClosed_singleton c, h.done⟩, ?_⟩
    rw [chars, chars, hcurrent, List.reverse_nil, List.append_nil]
    rfl
  | cons last before =>
    have hsome : s.current ≠ [] := by
      rw [hcurrent]
      apply List.cons_ne_nil
    obtain ⟨x, hx, hlast⟩ := h.context hsome
    rw [hcurrent] at hlast
    have hclosed := h.current
    rw [hcurrent] at hclosed
    rw [Cutting.add, hx, hcurrent]
    simp only
    split
    · next hjoins =>
      refine ⟨⟨fun _ => ⟨_, rfl, ?_⟩, nofun, hclosed.cons (hlast last rfl) hjoins, h.done⟩, ?_⟩
      · intro d hd
        rw [← Option.some.inj hd]
        rfl
      · rw [chars, chars, hcurrent, List.reverse_cons (a := c), List.append_assoc]
    · refine ⟨⟨fun _ => ⟨_, rfl, hstart⟩, nofun, isClosed_singleton c, ?_⟩, ?_⟩
      · intro cluster hmem
        rcases List.mem_cons.mp hmem with rfl | hmem
        · exact hclosed
        · exact h.done cluster hmem
      · rw [chars, chars, hcurrent, @List.reverse_cons _ _ s.done, List.flatten_append,
          List.flatten_singleton]
        rfl

/-- Cutting a text goes on soundly, and loses nothing of it. -/
theorem Cutting.IsSound.foldl_add {s : Cutting} (h : s.IsSound) (cs : List Char) :
  (cs.foldl Cutting.add s).IsSound ∧ (cs.foldl Cutting.add s).chars = s.chars ++ cs
  := by
  induction cs generalizing s with
  | nil => exact ⟨h, (List.append_nil _).symm⟩
  | cons c cs ih =>
    obtain ⟨hsound, hchars⟩ := h.add c
    obtain ⟨hrest, hall⟩ := ih hsound
    rw [hchars, List.append_assoc] at hall
    exact ⟨hrest, hall⟩

/-- The clusters of a text have its characters in order, and control characters stand alone in
them. -/
theorem clusters_sound (cs : List Char) :
  (clusters cs).flatten = cs ∧ ∀ cluster ∈ clusters cs, IsClosed cluster
  := by
  have hnothing : Cutting.IsSound {} :=
    ⟨fun hsome => absurd rfl hsome, fun _ => rfl, nofun, nofun⟩
  obtain ⟨hsound, hchars⟩ := hnothing.foldl_add cs
  rw [clusters]
  generalize cs.foldl Cutting.add {} = s at hsound hchars
  have hall : s.chars = cs := hchars
  split
  · next hempty =>
    rw [List.isEmpty_iff] at hempty
    rw [Cutting.chars, hsound.opened hempty, hempty] at hall
    exact ⟨hall, nofun⟩
  · constructor
    · rw [← hall, Cutting.chars, List.reverse_cons, List.flatten_append, List.flatten_singleton]
    · intro cluster hmem
      rcases List.mem_cons.mp (List.mem_reverse.mp hmem) with rfl | hdone
      · exact hsound.current
      · exact hsound.done cluster hdone

/-- A character that joins no other stands alone in each cluster, however often it is repeated. -/
theorem clusters_replicate {c : Char} (hc : clusterClass c = .other) (n : Nat) :
  clusters (List.replicate n c) = List.replicate n [c]
  := by
  have hfeed : c ≠ '\n' := by
    rintro rfl
    cases hc
  have hcut : ∀ n, (List.replicate (n + 1) c).foldl Cutting.add {}
      = { done := List.replicate n [c], current := [c], context := some (.start .other) } := by
    intro n
    induction n with
    | zero =>
      rw [List.replicate_one, List.foldl_cons, List.foldl_nil, Cutting.add, hc]
      rfl
    | succ n ih =>
      have hjoins : (Context.start .other).joins .other = false := rfl
      rw [List.replicate_succ', List.foldl_append, ih, List.foldl_cons, List.foldl_nil,
        Cutting.add, hc]
      simp [hjoins, hfeed, List.replicate_succ]
  cases n with
  | zero => rfl
  | succ n =>
    rw [clusters, hcut, List.replicate_succ']
    simp

/-! ### Texts -/

/-- A closed cluster other than a line feed takes no more columns than its characters other than
line feeds are counted for. -/
theorem IsClosed.columnsOf_le {cluster : List Char} (h : IsClosed cluster)
    (hfeed : cluster ≠ ['\n']) :
  columnsOf cluster ≤ ((cluster.filter fun c => c != '\n').map breadth).sum
  := by
  by_cases hmem : '\n' ∈ cluster
  · rcases h '\n' hmem rfl with hone | htwo
    · exact absurd hone hfeed
    · have hone : columnsOf ['\r', '\n'] = 1 := rfl
      have hreturn : (['\r', '\n'].filter fun c => c != '\n') = ['\r'] := rfl
      rw [htwo, hone, hreturn, List.map_singleton, List.sum_singleton]
      apply Nat.le_max_left
  · have hall : cluster.filter (fun c => c != '\n') = cluster := by
      rw [List.filter_eq_self]
      intro c hc
      rw [bne_iff_ne]
      rintro rfl
      exact hmem hc
    rw [hall]
    apply Text.columnsOf_le

/-- A text takes no more columns than its characters other than line feeds are counted for. -/
theorem columns_le (cs : List Char) :
  columns cs ≤ ((cs.filter fun c => c != '\n').map breadth).sum
  := by
  obtain ⟨hflatten, hclosed⟩ := clusters_sound cs
  rw [columns]
  conv_rhs => rw [← hflatten]
  generalize clusters cs = parts at hclosed
  induction parts with
  | nil => exact le_rfl
  | cons part parts ih =>
    obtain ⟨hpart, hparts⟩ := List.forall_mem_cons.mp hclosed
    have hrest := ih hparts
    rw [List.flatten_cons, List.filter_append, List.map_append, List.sum_append]
    by_cases hfeed : part = ['\n']
    · rw [List.filter_cons_of_neg (by simpa using hfeed)]
      exact hrest.trans (Nat.le_add_left _ _)
    · rw [List.filter_cons_of_pos (by simpa using hfeed), List.map_cons, List.sum_cons]
      exact Nat.add_le_add (hpart.columnsOf_le hfeed) hrest

/-- The columns of a character that joins no other, repeated. -/
theorem columns_replicate {c : Char} (hc : clusterClass c = .other) (n : Nat) :
  columns (List.replicate n c) = n * columnsOf [c]
  := by
  have hall : (List.replicate n [c]).filter (fun cluster => cluster != ['\n'])
      = List.replicate n [c] := by
    rw [List.filter_eq_self]
    intro cluster hcluster
    rw [List.eq_of_mem_replicate hcluster, bne_iff_ne]
    rintro hfeed
    rw [List.singleton_inj.mp hfeed] at hc
    cases hc
  rw [columns, clusters_replicate hc, hall, List.map_replicate, List.sum_replicate_nat]

end TaskConsole.Text
