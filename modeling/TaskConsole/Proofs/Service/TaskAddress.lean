import TaskConsole.Proofs.Address.Percent
import TaskConsole.Proofs.Address.Path
import TaskConsole.Service.Client

/-!
# Where tasks are asked for

The client asks for a task behind the list of all tasks, at a segment that it makes of the id.  Not
every id is such a segment: one of dots alone adds nothing to the address, one that comes to dots
once the characters that addresses do not see are left out names a place, and these characters make
no difference between ids (`Client.taskPlace`).  Apart from that the segments tell the ids
(`Client.TaskPlace.pathChars_inj`), so two ids share an address exactly if they lead to the same
place, and one shares that of the list exactly if it is dots alone
(`Client.task_address_eq_iff`).
-/

namespace TaskConsole.Client

open Address

/-- The name under which a service lists its tasks. -/
def tasksName : List Char := "tasks".toList

/-- Where an id leads from the list of the tasks. -/
inductive TaskPlace where
  /-- It stays at the list. -/
  | list
  /-- To the folder that the list is in. -/
  | above
  /-- To a segment behind the list. -/
  | named (cs : List Char)
deriving DecidableEq

/-- The characters of an id that addresses see. -/
def seenChars (id : String) : List Char := id.toList.filter fun c => !isUnseen c

/-- Where an id leads. -/
def taskPlace (id : String) : TaskPlace :=
  if id = "." ∨ id = ".." then .list
  else if seenChars id = ['.', '.'] then .above
  else if seenChars id = ['.'] then .named []
  else .named (seenChars id)

/-- Whether an id is a segment just as it is: it is not dots alone, and has no character that
addresses do not see. -/
def IsSegment (id : String) : Prop :=
  id ≠ "." ∧ id ≠ ".." ∧ ¬id.toList.any isUnseen = true

/-- The last segments of the address of a place. -/
def TaskPlace.segments (web : Bool) : TaskPlace → List (List Char)
  | list => [tasksName]
  | above => [[]]
  | named cs => [tasksName, Percent.encode (Percent.inSegment web) cs]

/-! ### Places -/

/-- Places are told by the ends of their addresses. -/
theorem TaskPlace.pathChars_inj {web : Bool} {p p' : TaskPlace} :
  (AddressPath.segments (p.segments web)).chars = (AddressPath.segments (p'.segments web)).chars
    ↔ p = p'
  := by
  constructor
  · intro h
    cases p with
    | list =>
      cases p' with
      | list => rfl
      | above => cases h
      | named cs => cases h
    | above =>
      cases p' with
      | list => cases h
      | above => rfl
      | named cs => cases h
    | named cs =>
      cases p' with
      | list => cases h
      | above => cases h
      | named cs' =>
        simp only [AddressPath.chars, segments, List.flatMap_cons, List.flatMap_nil,
          List.append_cancel_left_eq, List.append_nil, List.cons.injEq, true_and] at h
        rw [Percent.encode_injective rfl h]
  · rintro rfl
    rfl

theorem taskPlace_eq_list_iff (id : String) :
  taskPlace id = .list ↔ id = "." ∨ id = ".."
  := by
  rw [taskPlace]
  split
  · next h => exact iff_of_true rfl h
  · next h =>
    apply iff_of_false _ h
    split
    · nofun
    · split
      · nofun
      · nofun

/-- An id that is a segment leads to a segment of its own. -/
theorem taskPlace_of_isSegment {id : String} (h : IsSegment id) :
  taskPlace id = .named id.toList
  := by
  obtain ⟨hone, htwo, hseen⟩ := h
  have hall : seenChars id = id.toList := by
    apply List.filter_eq_self.mpr
    intro c hc
    rw [Bool.not_eq_true']
    exact Bool.eq_false_iff.mpr fun hunseen => hseen (List.any_eq_true.mpr ⟨c, hc, hunseen⟩)
  rw [taskPlace, if_neg (not_or.mpr ⟨hone, htwo⟩), hall, if_neg, if_neg]
  · exact fun hdot => hone (String.toList_injective hdot)
  · exact fun hdots => htwo (String.toList_injective hdots)

/-! ### Segments -/

/-- In front of a segment that has a name, the empty ones at the start are left out. -/
theorem withoutEmptyStart_concat {last : List Char} (h : last ≠ []) (front : List (List Char)) :
  withoutEmptyStart (front ++ [last]) = front.dropWhile List.isEmpty ++ [last]
  := by
  have hlast : last.isEmpty = false := List.isEmpty_eq_false_iff.mpr h
  induction front with
  | nil => simp [withoutEmptyStart, hlast]
  | cons first front ih =>
    cases hfirst : first.isEmpty with
    | true =>
      rw [List.dropWhile_cons, hfirst, if_pos rfl, ← ih, withoutEmptyStart, withoutEmptyStart,
        List.cons_append, List.dropWhile_cons, hfirst, if_pos rfl]
    | false => simp [withoutEmptyStart, hfirst]

/-- Segments that begin with one that has a name have no empty ones at the start. -/
theorem withoutEmptyStart_of_head {first : List Char} (h : first ≠ []) (rest : List (List Char)) :
  withoutEmptyStart (first :: rest) = first :: rest
  := by
  have hfirst : first.isEmpty = false := List.isEmpty_eq_false_iff.mpr h
  simp [withoutEmptyStart, hfirst]

/-- The name of the list of tasks stands behind segments that begin with a name in a file. -/
theorem exists_push_tasks (scheme : List Char) (list : List (List Char)) :
  ∃ front, push scheme list tasksName = front ++ [tasksName]
    ∧ (scheme = fileScheme → ∀ first ∈ front.head?, first ≠ [])
  := by
  have hwritten : ∀ web, Percent.encode (Percent.inSegment web) tasksName = tasksName := by decide
  have hplain : IsPlain (isWeb scheme) tasksName := ⟨by decide, by decide, by decide, hwritten _⟩
  have hroot : asRoot tasksName = tasksName := by decide
  have hadd : ∀ file, addSegment file list tasksName
      = (if list = [[]] then [] else list) ++ [tasksName] := by
    intro file
    rw [addSegment, hroot, ite_self]
    split
    · rfl
    · rfl
  generalize (if list = [[]] then [] else list) = front at hadd
  rw [push_of_isPlain hplain, hadd, hadd]
  by_cases hfile : scheme = fileScheme
  · use front.dropWhile List.isEmpty
    rw [if_pos hfile, withoutEmptyStart_concat (by decide)]
    use rfl
    intro _ first hfirst
    have hnamed := List.head?_dropWhile_not List.isEmpty front
    rw [hfirst] at hnamed
    exact List.isEmpty_eq_false_iff.mp hnamed
  · use front
    rw [if_neg hfile]
    exact ⟨rfl, fun h => absurd h hfile⟩

/-- Behind segments that begin with a name, those of a place have no empty ones at the start, or
nothing else. -/
theorem TaskPlace.withoutEmptyStart_segments {front : List (List Char)}
    (hfront : ∀ first ∈ front.head?, first ≠ []) (web : Bool) (p : TaskPlace) :
  withoutEmptyStart (front ++ p.segments web) = front ++ p.segments web
  := by
  cases front with
  | nil =>
    cases p with
    | above => rfl
    | _ => apply withoutEmptyStart_of_head (by decide)
  | cons first front => apply withoutEmptyStart_of_head (hfront first rfl)

/-- Behind the list of tasks, an id adds the segments of the place that it leads to. -/
theorem push_id {scheme : List Char} {front : List (List Char)}
    (hfront : scheme = fileScheme → ∀ first ∈ front.head?, first ≠ []) (id : String) :
  push scheme (front ++ [tasksName]) id.toList
    = front ++ (taskPlace id).segments (isWeb scheme)
  := by
  have hdots : (id.toList = ['.'] || id.toList = ['.', '.']) = true ↔ id = "." ∨ id = ".." := by
    rw [Bool.or_eq_true, decide_eq_true_iff, decide_eq_true_iff]
    have hone : id.toList = ".".toList ↔ id = "." := String.toList_inj
    have htwo : id.toList = "..".toList ↔ id = ".." := String.toList_inj
    apply or_congr hone htwo
  rw [push]
  by_cases hlist : id = "." ∨ id = ".."
  · rw [if_pos (hdots.mpr hlist), (taskPlace_eq_list_iff id).mpr hlist]
    rfl
  · have habove : dropAbove (front ++ [tasksName]) = front := by
      have hdrive : ¬(front ++ [tasksName]).getLast?.any startsWithDrive = true := by
        rw [List.getLast?_concat]
        decide
      rw [dropAbove, if_neg hdrive, List.dropLast_concat]
    have hadd : ∀ file segment, addSegment file (front ++ [tasksName]) segment
        = front ++ [tasksName, segment] := by
      intro file segment
      have hother : front ++ [tasksName] ≠ [[]] := concat_ne_concat_nil (by decide) front []
      rw [addSegment, if_neg hother, List.append_assoc]
      rfl
    have hlonger : (if seenChars id = ['.', '.'] then dropAbove (front ++ [tasksName]) ++ [[]]
        else if seenChars id = ['.'] then
          addSegment (decide (scheme = fileScheme)) (front ++ [tasksName]) []
        else addSegment (decide (scheme = fileScheme)) (front ++ [tasksName])
          (Percent.encode (Percent.inSegment (isWeb scheme)) (seenChars id)))
        = front ++ (taskPlace id).segments (isWeb scheme) := by
      rw [taskPlace, if_neg hlist, habove, hadd, hadd]
      split
      · rfl
      · split
        · rfl
        · rfl
    rw [if_neg fun h => hlist (hdots.mp h)]
    dsimp only
    rw [← seenChars, hlonger]
    by_cases hfile : scheme = fileScheme
    · rw [if_pos (decide_eq_true hfile), TaskPlace.withoutEmptyStart_segments (hfront hfile)]
    · rw [if_neg (by simpa using hfile)]

/-! ### Addresses -/

section Address

variable {a : Address}

/-- The address with the segments of a place behind others. -/
def TaskPlace.address (a : Address) (front : List (List Char)) (p : TaskPlace) : Address :=
  { a with path := .segments (front ++ p.segments (isWeb a.scheme)) }

/-- The client finds the list of tasks, and each task, at the address of the place that its id
leads to. -/
theorem exists_extend?_eq {list : List (List Char)} (hpath : a.path = .segments list) :
  ∃ front, a.extend? ["tasks"] = some (TaskPlace.list.address a front)
    ∧ ∀ id, a.extend? ["tasks", id] = some ((taskPlace id).address a front)
  := by
  obtain ⟨front, hpush, hfront⟩ := exists_push_tasks a.scheme (withoutEmptyEnd list)
  rw [tasksName] at hpush
  use front
  constructor
  · rw [extend?, hpath]
    simp only [List.map_cons, List.map_nil, List.foldl_cons, List.foldl_nil, hpush]
    rfl
  · intro id
    rw [extend?, hpath]
    simp only [List.map_cons, List.map_nil, List.foldl_cons, List.foldl_nil, hpush]
    rw [← tasksName, push_id hfront]
    rfl

theorem TaskPlace.chars_path_inj {front : List (List Char)} {p p' : TaskPlace} :
  (p.address a front).path.chars = (p'.address a front).path.chars ↔ p = p'
  := by
  have hchars : ∀ p : TaskPlace, (p.address a front).path.chars
      = (AddressPath.segments front).chars
        ++ (AddressPath.segments (p.segments (isWeb a.scheme))).chars :=
    fun _ => List.flatMap_append
  rw [hchars, hchars, List.append_right_inj, pathChars_inj]

/-- Places are told by what the host is asked for. -/
theorem TaskPlace.target_inj {front : List (List Char)} {p p' : TaskPlace} :
  (p.address a front).target = (p'.address a front).target ↔ p = p'
  := by
  have hquery : (p.address a front).query = (p'.address a front).query := rfl
  rw [target, target, String.ofList_inj, hquery, List.append_left_inj, chars_path_inj]

/-- Places are told by their addresses. -/
theorem TaskPlace.text_inj {front : List (List Char)} {p p' : TaskPlace} :
  (p.address a front).text = (p'.address a front).text ↔ p = p'
  := by
  have htext : ∀ p : TaskPlace, (p.address a front).text
      = String.ofList (a.scheme ++ ':' :: a.authorityChars ++ (p.address a front).path.chars
        ++ marked '?' a.query ++ marked '#' a.fragment) :=
    fun _ => rfl
  rw [htext, htext, String.ofList_inj, List.append_left_inj, List.append_left_inj,
    List.append_right_inj, chars_path_inj]

/-- An exchange that stops at the first request, and gives it back. -/
def firstRequest : Exchange (Except Request) := fun r => .error r

/-- For every service whose address has segments, and every id: the client asks for the list of
tasks, and for the task of the id, at one address each.  Two ids have the same address, and ask the
host for the same, exactly if they lead to the same place, so ids that are segments just as they are
have the same address only if they are the same.  An id has the address of the list exactly if it is
dots alone. -/
theorem task_address_eq_iff {list : List (List Char)} (hpath : a.path = .segments list) :
  ∃ (tasks : Address) (task : String → Address),
    address a ["tasks"] = .ok tasks
    ∧ (∀ id, address a ["tasks", id] = .ok (task id))
    ∧ (service firstRequest a).listTasks = .error { method := .get, address := tasks }
    ∧ (∀ id, (service firstRequest a).getTask id = .error { method := .get, address := task id })
    ∧ (∀ id id', ((task id).text = (task id').text ↔ taskPlace id = taskPlace id')
      ∧ ((task id).target = (task id').target ↔ taskPlace id = taskPlace id'))
    ∧ (∀ id id', IsSegment id → IsSegment id' → id ≠ id' → (task id).text ≠ (task id').text)
    ∧ (∀ id, ((task id).text = tasks.text ↔ id = "." ∨ id = "..")
      ∧ ((task id).target = tasks.target ↔ id = "." ∨ id = ".."))
  := by
  obtain ⟨front, hlist, htask⟩ := exists_extend?_eq hpath
  have hlist' : address a ["tasks"] = .ok (TaskPlace.list.address a front) := by
    rw [address, hlist]
  have htask' : ∀ id, address a ["tasks", id] = .ok ((taskPlace id).address a front) := by
    intro id
    rw [address, htask]
  use TaskPlace.list.address a front, fun id => (taskPlace id).address a front, hlist', htask'
  refine ⟨?_, ?_, ?_, ?_, ?_⟩
  · simp only [service, fetch, ask, hlist']
    rfl
  · intro id
    simp only [service, fetch, ask, htask']
    rfl
  · exact fun id id' => ⟨TaskPlace.text_inj, TaskPlace.target_inj⟩
  · intro id id' hid hid' hother hsame
    rw [TaskPlace.text_inj, taskPlace_of_isSegment hid, taskPlace_of_isSegment hid'] at hsame
    exact hother (String.toList_injective (TaskPlace.named.inj hsame))
  · intro id
    rw [← taskPlace_eq_list_iff, TaskPlace.text_inj, TaskPlace.target_inj]
    exact ⟨Iff.rfl, Iff.rfl⟩

end Address

/-- An id with a slash, and one with the signs that the slash is written as, behind a path that ends
with a slash. -/
theorem task_address_ne_of_slash :
  let a : Address :=
    { scheme := "http".toList, host := some (.name "h".toList)
      path := .segments ["api".toList, []] }
  ∃ task : String → Address, (∀ id, address a ["tasks", id] = .ok (task id))
    ∧ (task "a/b").text = "http://h/api/tasks/a%2Fb"
    ∧ (task "a/b").text ≠ (task "a%2Fb").text
  := by
  intro a
  have hpath : a.path = .segments ["api".toList, []] := rfl
  obtain ⟨_, task, -, htask, -, -, -, hother, -⟩ := task_address_eq_iff hpath
  use task, htask
  constructor
  · have haddress : (address a ["tasks", "a/b"]).map Address.text
        = .ok "http://h/api/tasks/a%2Fb" := by
      decide +kernel
    rw [htask] at haddress
    exact Except.ok.inj haddress
  · apply hother
    · exact ⟨by decide, by decide, by decide⟩
    · exact ⟨by decide, by decide, by decide⟩
    · decide

/-- Dots alone have the address of the list of tasks; a tab makes no difference between two ids. -/
theorem task_address_eq_of_dots :
  let address (segments : List String) :=
    ((base "http://h").bind fun a => address a segments).map Address.text
  address ["tasks"] = .ok "http://h/tasks"
    ∧ address ["tasks", "."] = .ok "http://h/tasks" ∧ address ["tasks", ".."] = .ok "http://h/tasks"
    ∧ address ["tasks", "a\tb"] = .ok "http://h/tasks/ab"
    ∧ address ["tasks", "ab"] = .ok "http://h/tasks/ab"
  := by decide +kernel

end TaskConsole.Client
