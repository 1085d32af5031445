import Mathlib.Data.List.DropRight
import Mathlib.Data.List.TakeWhile
import TaskConsole.Address.Reader

/-!
# Addresses that go on

What stands in front of the path of a web address is read by itself (`Address.readAuthority_web`).
Characters that go on with the path of an address (`Address.GoesOn`), if they stand behind its
text, belong to the fragment if it has one, or else to the query if it has one
(`Address.readParts_append`), and otherwise to the path, with nothing else changed
(`Address.readPlace_append`).
-/

namespace TaskConsole.Address

/-! ### In front of the path -/

/-- What stands in front of the first mark is part of the characters. -/
theorem mem_of_mem_cutAt {mark : Char} {cs : List Char} {c : Char}
    (h : c ∈ (cutAt mark cs).1) :
  c ∈ cs
  := by
  rw [cutAt] at h
  split at h
  · exact (List.takeWhile_prefix _).subset h
  · exact h

/-- What stands behind the last mark is part of the characters. -/
theorem mem_of_mem_cutAtLast {mark : Char} {cs : List Char} {c : Char}
    (h : c ∈ (cutAtLast mark cs).2) :
  c ∈ cs
  := by
  rw [cutAtLast] at h
  split at h
  · next back front hcut =>
    have hback : c ∈ (cutAt mark cs.reverse).1 := by
      rw [hcut]
      apply List.mem_reverse.mp h
    apply List.mem_reverse.mp (mem_of_mem_cutAt hback)
  · exact h

/-- What stands behind the colon of a port is part of the characters. -/
theorem mem_of_mem_cutPort {bracketed : Bool} {cs port : List Char} {c : Char}
    (hport : (cutPort bracketed cs).2 = some port) (h : c ∈ port) :
  c ∈ cs
  := by
  induction cs generalizing bracketed with
  | nil => cases hport
  | cons d cs ih =>
    rw [cutPort] at hport
    split at hport
    · rw [← Option.some.inj hport] at h
      apply List.mem_cons_of_mem d h
    · apply List.mem_cons_of_mem d (ih hport)

/-- The port of an address is part of what stands in front of its path. -/
theorem mem_of_mem_port {authority : List Char} {c : Char}
    (h : c ∈ (cutPort false (cutAtLast '@' authority).2).2.getD []) :
  c ∈ authority
  := by
  cases hport : (cutPort false (cutAtLast '@' authority).2).2 with
  | none =>
    rw [hport] at h
    exact (List.not_mem_nil h).elim
  | some port =>
    rw [hport] at h
    apply mem_of_mem_cutAtLast (mem_of_mem_cutPort hport h)

/-- Whether a character belongs to what stands in front of the path. -/
def isAuthority (c : Char) : Bool := !isSlash true c

/-- What stands in front of the path of a web address. -/
structure Head where
  user : List Char
  password : List Char
  host : Host
  port : Option Nat

/-- The address with a path behind its head. -/
def Head.address (scheme : List Char) (head : Head) (path : List Char) : Address where
  scheme := scheme
  user := head.user
  password := head.password
  host := some head.host
  port := head.port
  path := .segments (segmentsBehindHost scheme path)

/-- Reads what stands in front of the path of a web address. -/
def readHead (scheme authority : List Char) : Except AddressFault Head := do
  let (user, place) := cutAtLast '@' authority
  let (name, password) := cutAt ':' (user.getD [])
  let named := !name.isEmpty || password.any (!·.isEmpty)
  let (host, port) := cutPort false place
  if host.isEmpty then .error .emptyHost
  else
    let host ← Host.read host
    let number ← readPort scheme ((port.getD []).takeWhile Char.isDigit)
    if ((port.getD []).dropWhile Char.isDigit).isEmpty then
      if named && host = .name [] then .error .emptyHost
      else return {
        user := Percent.encode Percent.inUser name
        password := Percent.encode Percent.inUser (password.getD [])
        host := host
        port := number }
    else .error .badPort

/-- What stands in front of the path of a web address is read by itself. -/
theorem readAuthority_web {scheme : List Char} (hweb : isWeb scheme = true) (more : Bool)
    (cs : List Char) :
  readAuthority scheme more cs
    = (readHead scheme (cs.takeWhile isAuthority)).map fun head =>
      head.address scheme (cs.dropWhile isAuthority)
  := by
  have hauth : ∀ c ∈ cs.takeWhile isAuthority, c ≠ '\\' := by
    rintro c hc rfl
    exact absurd (List.mem_takeWhile_imp hc) (by decide)
  have hcs : cs.takeWhile (fun c => !isSlash true c) = cs.takeWhile isAuthority := rfl
  have hcs' : cs.dropWhile (fun c => !isSlash true c) = cs.dropWhile isAuthority := rfl
  rw [readAuthority, readHead, hweb, hcs, hcs']
  generalize cs.takeWhile isAuthority = authority at hauth
  generalize cs.dropWhile isAuthority = path
  rcases hcut : cutAtLast '@' authority with ⟨user, place⟩
  rcases hcut' : cutPort false place with ⟨host, port⟩
  rcases hcut'' : cutAt ':' (user.getD []) with ⟨name, password⟩
  have hplace : host ≠ [] → place ≠ [] := by
    rintro hhost rfl
    rw [← (Prod.mk.inj hcut').1] at hhost
    exact hhost rfl
  have hport : '\\' ∉ port.getD [] := by
    intro hmem
    have hin : '\\' ∈ (cutPort false (cutAtLast '@' authority).2).2.getD [] := by
      rw [hcut, hcut']
      exact hmem
    exact hauth _ (mem_of_mem_port hin) rfl
  simp only [hcut', hcut'', if_true, Bool.true_or, Bool.and_true]
  by_cases hhost : host.isEmpty = true
  · rw [hhost]
    split
    · rfl
    · rfl
  · have hplace' : place.isEmpty = false := by
      rw [List.isEmpty_eq_false_iff]
      apply hplace
      rw [List.isEmpty_iff] at hhost
      exact hhost
    rw [Bool.not_eq_true] at hhost
    simp only [hhost, hplace', Bool.and_false, Bool.false_and, Bool.false_eq_true, if_false]
    cases Host.read host with
    | error fault => rfl
    | ok host' =>
      simp only [bind, Except.bind]
      cases readPort scheme ((port.getD []).takeWhile Char.isDigit) with
      | error fault => rfl
      | ok number =>
        simp only []
        cases hbehind : (port.getD []).dropWhile Char.isDigit with
        | nil =>
          simp only [List.head?_nil, Option.any_none, Bool.false_eq_true, if_false,
            List.isEmpty_nil, if_true, List.nil_append]
          split
          · rfl
          · rfl
        | cons c rest =>
          have hmem : c ∈ port.getD [] := by
            apply (List.dropWhile_suffix Char.isDigit).subset
            rw [hbehind]
            apply List.mem_cons_self
          have hc : (c != '\\') = true := by
            rw [bne_iff_ne]
            rintro rfl
            exact hport hmem
          simp only [List.head?_cons, Option.any_some, hc, if_true, List.isEmpty_cons,
            Bool.false_eq_true, if_false]
          rfl

/-! ### The scheme -/

/-- An address with a host has the scheme that was read. -/
theorem scheme_of_readAuthority {scheme cs : List Char} {more : Bool} {a : Address}
    (h : readAuthority scheme more cs = .ok a) :
  a.scheme = scheme
  := by
  rw [readAuthority] at h
  simp only [bind, Except.bind, pure, Except.pure, throw, throwThe, MonadExceptOf.throw] at h
  repeat' split at h
  all_goals cases h
  all_goals rfl

/-- What a computation gives comes from what its first part gave. -/
theorem exists_of_bind_eq_ok {α β : Type} {x : Except AddressFault α}
    {f : α → Except AddressFault β} {b : β} (h : x >>= f = .ok b) :
  ∃ a, f a = .ok b
  := by
  cases x with
  | error fault => cases h
  | ok a => exact ⟨a, h⟩

/-- The address of a file has the scheme of files. -/
theorem scheme_of_readFileAddress {cs : List Char} {a : Address}
    (h : readFileAddress cs = .ok a) :
  a.scheme = fileScheme
  := by
  unfold readFileAddress at h
  split at h
  · split at h
    · obtain ⟨place, hplace⟩ := exists_of_bind_eq_ok h
      rw [← Except.ok.inj hplace]
    · rw [← Except.ok.inj h]
  · rw [← Except.ok.inj h]

/-- An address has the scheme that was read. -/
theorem scheme_of_readPlace {scheme cs : List Char} {more : Bool} {a : Address}
    (h : readPlace scheme more cs = .ok a) :
  a.scheme = scheme
  := by
  unfold readPlace at h
  split at h
  · next hfile => rw [hfile, scheme_of_readFileAddress h]
  split at h
  · apply scheme_of_readAuthority h
  split at h
  · apply scheme_of_readAuthority h
  · rw [← Except.ok.inj h]
  · rw [← Except.ok.inj h]

/-! ### Behind the address -/

/-- Whether characters go on with the path of an address, if they stand behind one. -/
def GoesOn (rest : List Char) : Prop :=
  (∀ c ∈ rest.head?, c = '/') ∧ ∀ c ∈ rest, isAround c = false ∧ c ≠ '#' ∧ c ≠ '?'

/-- Cutting where characters stop being of a kind, before others of which the first is none. -/
theorem cut_append {p : Char → Bool} {rest : List Char} (h : ∀ c ∈ rest.head?, p c = false)
    (cs : List Char) :
  (cs ++ rest).takeWhile p = cs.takeWhile p ∧ (cs ++ rest).dropWhile p = cs.dropWhile p ++ rest
  := by
  have hrest : rest.takeWhile p = [] ∧ rest.dropWhile p = rest := by
    cases rest with
    | nil => exact ⟨rfl, rfl⟩
    | cons c rest =>
      rw [List.takeWhile_cons, List.dropWhile_cons, h c rfl]
      exact ⟨rfl, rfl⟩
  induction cs with
  | nil => exact hrest
  | cons c cs ih =>
    rw [List.cons_append, List.takeWhile_cons, List.takeWhile_cons, List.dropWhile_cons,
      List.dropWhile_cons, ih.1, ih.2]
    cases p c with
    | true => exact ⟨rfl, rfl⟩
    | false => exact ⟨rfl, rfl⟩

/-- What goes on begins with a slash. -/
theorem GoesOn.head {p : Char → Bool} (hp : p '/' = false) {rest : List Char} (h : GoesOn rest) :
  ∀ c ∈ rest.head?, p c = false
  := by
  intro c hc
  rw [h.1 c hc, hp]

/-- The characters that addresses do not see are blank. -/
theorem isAround_of_isUnseen {c : Char} (h : isUnseen c = true) :
  isAround c = true
  := by
  rw [isUnseen, Bool.or_eq_true, Bool.or_eq_true, decide_eq_true_iff, decide_eq_true_iff,
    decide_eq_true_iff] at h
  rcases h with (rfl | rfl) | rfl
  · rfl
  · rfl
  · rfl

/-- The characters of an address behind which others stand. -/
theorem clean_append {cs rest : List Char} (hrest : ∀ c ∈ rest, isAround c = false)
    (hend : rest = [] → ∀ c ∈ cs.getLast?, isAround c = false) :
  clean (cs ++ rest) = (cs.dropWhile isAround).filter (fun c => !isUnseen c) ++ rest
  := by
  have hseen : rest.filter (fun c => !isUnseen c) = rest := by
    rw [List.filter_eq_self]
    intro c hc
    rw [Bool.not_eq_true', ← Bool.not_eq_true]
    intro hunseen
    exact absurd (isAround_of_isUnseen hunseen) (by rw [hrest c hc]; apply Bool.false_ne_true)
  have hback : (cs.dropWhile isAround ++ rest).rdropWhile isAround
      = cs.dropWhile isAround ++ rest := by
    rw [List.rdropWhile_eq_self_iff]
    intro hsome
    rw [Bool.not_eq_true]
    by_cases hnil : rest = []
    · subst hnil
      simp only [List.append_nil] at hsome ⊢
      rw [(List.dropWhile_suffix isAround).getLast hsome]
      apply hend rfl
      apply List.getLast?_eq_some_getLast
    · rw [List.getLast_append_of_ne_nil _ hnil]
      apply hrest
      apply List.getLast_mem
  have hfront : ∀ c ∈ rest.head?, isAround c = false := by
    intro c hc
    apply hrest c (List.mem_of_mem_head? hc)
  have hclean : clean (cs ++ rest)
      = (((cs ++ rest).dropWhile isAround).rdropWhile isAround).filter fun c => !isUnseen c := rfl
  rw [hclean, (cut_append hfront cs).2, hback, List.filter_append, hseen]

/-- The scheme of an address stays if the address goes on. -/
theorem scheme?_append {rest : List Char} (h : GoesOn rest) (cs : List Char) :
  scheme? (cs ++ rest) = (scheme? cs).map fun r => (r.1, r.2 ++ rest)
  := by
  obtain ⟨htake, hdrop⟩ := cut_append (h.head (p := inScheme) rfl) cs
  rw [scheme?, scheme?, htake, hdrop]
  cases cs.dropWhile inScheme with
  | nil =>
    cases rest with
    | nil => rfl
    | cons c rest =>
      rw [h.1 c rfl]
      rfl
  | cons c back =>
    by_cases hc : c = ':'
    · rw [hc]
      simp only [List.cons_append]
      split
      · rfl
      · rfl
    · simp [hc]

/-- What stands behind the scheme of an address is its end. -/
theorem suffix_of_scheme? {cs scheme behind : List Char}
    (h : scheme? cs = some (scheme, behind)) :
  behind <:+ cs
  := by
  have hsuffix : cs.dropWhile inScheme <:+ cs := List.dropWhile_suffix _
  rw [scheme?] at h
  split at h
  · next rest hrest =>
    rw [hrest] at hsuffix
    dsimp only at h
    split at h
    · rw [← (Prod.mk.inj (Option.some.inj h)).2]
      exact (List.suffix_cons ':' rest).trans hsuffix
    · cases h
  · cases h

/-- What goes on belongs to the part behind a mark, if there is one. -/
theorem cutAt_append {mark : Char} {rest : List Char} (h : mark ∉ rest) (cs : List Char) :
  cutAt mark (cs ++ rest)
    = match cutAt mark cs with
      | (front, some back) => (front, some (back ++ rest))
      | (_, none) => (cs ++ rest, none)
  := by
  rw [cutAt, cutAt, List.dropWhile_append, List.takeWhile_append]
  cases hback : cs.dropWhile (· != mark) with
  | nil =>
    have hnone : rest.dropWhile (· != mark) = [] := by
      rw [List.dropWhile_eq_nil_iff]
      intro c hc
      rw [bne_iff_ne]
      rintro rfl
      exact h hc
    rw [List.isEmpty_nil, if_pos rfl, hnone]
  | cons c back =>
    have hshort : (cs.takeWhile (· != mark)).length ≠ cs.length := by
      intro hlength
      have hboth := congrArg List.length
        (List.takeWhile_append_dropWhile (p := (· != mark)) (l := cs))
      rw [hback, List.length_append, hlength, List.length_cons] at hboth
      omega
    rw [List.isEmpty_cons, if_neg Bool.false_ne_true, if_neg hshort]
    rfl

/-- Reads the characters of an address. -/
def readParts (cs : List Char) : Except AddressFault Address :=
  match scheme? cs with
  | none => .error .noScheme
  | some (scheme, rest) =>
    let (rest, fragment) := cutAt '#' rest
    let (rest, query) := cutAt '?' rest
    (readPlace scheme (query.isSome || fragment.isSome) rest).map fun a =>
      { a with
        query := query.map (Percent.encode (Percent.inQuery (isWeb scheme)))
        fragment := fragment.map (Percent.encode Percent.inFragment) }

/-- An address is read from the characters that it sees. -/
theorem read_eq (text : String) :
  read text = readParts (clean text.toList)
  := by
  rw [read, readParts]
  cases scheme? (clean text.toList) with
  | none => rfl
  | some r => rfl

/-- The address without what stands behind its path. -/
def unmarked (a : Address) : Address :=
  { a with query := none, fragment := none }

/-- What goes on with a text belongs to its fragment if it has one, or else to its query if it
has one, or else to its path. -/
theorem readParts_append (cs : List Char) :
  (∀ rest, GoesOn rest → readParts (cs ++ rest) = .error .noScheme)
    ∨ (∃ (front : List Char) (place : Except AddressFault Address), ∀ rest, GoesOn rest →
        readParts (cs ++ rest) = place.map fun a =>
          { a with fragment := some (Percent.encode Percent.inFragment (front ++ rest)) })
    ∨ (∃ (web : Bool) (front : List Char) (place : Except AddressFault Address),
        ∀ rest, GoesOn rest → readParts (cs ++ rest) = place.map fun a =>
          { a with query := some (Percent.encode (Percent.inQuery web) (front ++ rest)) })
    ∨ ∃ scheme place, place <:+ cs ∧ ∀ rest, GoesOn rest →
        readParts (cs ++ rest) = (readPlace scheme false (place ++ rest)).map unmarked
  := by
  cases hscheme : scheme? cs with
  | none =>
    left
    intro rest hrest
    rw [readParts, scheme?_append hrest, hscheme]
    rfl
  | some r =>
    right
    obtain ⟨scheme, behind⟩ := r
    have hread : ∀ rest, GoesOn rest →
        scheme? (cs ++ rest) = some (scheme, behind ++ rest) := by
      intro rest hrest
      rw [scheme?_append hrest, hscheme]
      rfl
    have hmarks : ∀ rest, GoesOn rest → '#' ∉ rest ∧ '?' ∉ rest := by
      intro rest hrest
      exact ⟨fun hmem => (hrest.2 _ hmem).2.1 rfl, fun hmem => (hrest.2 _ hmem).2.2 rfl⟩
    rcases hfragment : cutAt '#' behind with ⟨place, _ | fragment⟩
    · right
      rcases hquery : cutAt '?' behind with ⟨place', _ | query⟩
      · right
        use scheme, behind, suffix_of_scheme? hscheme
        intro rest hrest
        rw [readParts, hread rest hrest]
        simp only [cutAt_append (hmarks rest hrest).1, cutAt_append (hmarks rest hrest).2,
          hfragment, hquery]
        rfl
      · left
        use isWeb scheme, query, (readPlace scheme true place').map fun a =>
          { a with fragment := none }
        intro rest hrest
        rw [readParts, hread rest hrest]
        simp only [cutAt_append (hmarks rest hrest).1, cutAt_append (hmarks rest hrest).2,
          hfragment, hquery, Option.isSome_some, Bool.true_or]
        cases readPlace scheme true place' with
        | error fault => rfl
        | ok a => rfl
    · left
      use fragment, (readPlace scheme true (cutAt '?' place).1).map fun a =>
        { a with query :=
            (cutAt '?' place).2.map (Percent.encode (Percent.inQuery (isWeb scheme))) }
      intro rest hrest
      rw [readParts, hread rest hrest]
      simp only [cutAt_append (hmarks rest hrest).1, hfragment, Option.isSome_some, Bool.or_true]
      cases readPlace scheme true (cutAt '?' place).1 with
      | error fault => rfl
      | ok a => rfl

/-- A list ends as its ends do. -/
theorem getLast?_eq_of_suffix {α : Type} {l l' : List α} (h : l <:+ l') (hsome : l ≠ []) :
  l'.getLast? = l.getLast?
  := by
  obtain ⟨front, rfl⟩ := h
  apply List.getLast?_append_of_ne_nil _ hsome

/-- What goes on with a web address belongs to its path, unless the address names no host. -/
theorem readPlace_append {scheme : List Char} (hweb : isWeb scheme = true)
    (hfile : scheme ≠ fileScheme) (place : List Char) :
  (∀ n, readPlace scheme false (place ++ List.replicate n '/') = .error .emptyHost)
    ∨ place ≠ [] ∧ ∃ (head : Except AddressFault Head) (path : List Char),
        (∀ c ∈ path.head?, isSlash true c = true)
          ∧ (∀ c, isSlash true c = true → (c ∈ place.getLast? ↔ c ∈ path.getLast?))
          ∧ ∀ rest, GoesOn rest → readPlace scheme false (place ++ rest)
            = head.map fun head => head.address scheme (path ++ rest)
  := by
  have hplace : ∀ cs, readPlace scheme false cs
      = readAuthority scheme false (cs.dropWhile (isSlash true)) := by
    intro cs
    unfold readPlace
    rw [if_neg hfile, if_pos hweb]
  cases hfront : place.dropWhile (isSlash true) with
  | nil =>
    left
    intro n
    have hnone : (place ++ List.replicate n '/').dropWhile (isSlash true) = [] := by
      rw [List.dropWhile_append, hfront, List.isEmpty_nil, if_pos rfl, List.dropWhile_eq_nil_iff]
      intro c hc
      rw [List.eq_of_mem_replicate hc]
      rfl
    rw [hplace, hnone, readAuthority_web hweb]
    rfl
  | cons c front =>
    right
    constructor
    · rintro rfl
      cases hfront
    use readHead scheme ((c :: front).takeWhile isAuthority), (c :: front).dropWhile isAuthority
    refine ⟨?_, ?_, ?_⟩
    · intro d hd
      have hstop := List.head?_dropWhile_not isAuthority (c :: front)
      rw [hd] at hstop
      simpa [isAuthority] using hstop
    · intro d hd
      rw [getLast?_eq_of_suffix (hfront ▸ List.dropWhile_suffix _) (List.cons_ne_nil c front)]
      cases hpath : (c :: front).dropWhile isAuthority with
      | nil =>
        rw [List.dropWhile_eq_nil_iff] at hpath
        constructor
        · intro hlast
          have hauthority := hpath d (List.mem_of_getLast? hlast)
          rw [isAuthority, hd] at hauthority
          cases hauthority
        · intro hlast
          cases hlast
      | cons first path =>
        rw [← hpath, ← getLast?_eq_of_suffix (List.dropWhile_suffix isAuthority)]
        rw [hpath]
        apply List.cons_ne_nil
    · intro rest hrest
      have hmore : (place ++ rest).dropWhile (isSlash true) = c :: front ++ rest := by
        rw [List.dropWhile_append, hfront]
        rfl
      obtain ⟨htake, hdrop⟩ := cut_append (hrest.head (p := isAuthority) rfl) (c :: front)
      rw [hplace, hmore, readAuthority_web hweb, htake, hdrop]

end TaskConsole.Address
