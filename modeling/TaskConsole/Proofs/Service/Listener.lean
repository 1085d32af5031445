import TaskConsole.Proofs.Address.Path
import TaskConsole.Proofs.Address.Reading
import TaskConsole.Service.Client

/-!
# Where events are asked for

The client asks for most things at addresses that it makes from the parts of the address of its
service, and for events at one that it reads from the text of that address with a name behind it.
Without a query and a fragment, both stand behind the same path, unless it ends with more slashes
than adding to a path leaves out (`Client.read_event_iff`).  A query or a fragment takes the name
for itself (`Client.ne_extend?_of_query`).  So the two ways agree for just those addresses
that have neither, and the right number of slashes (`Client.event_address_eq_iff`).
-/

namespace TaskConsole.Client

open Address

/-- The number of slashes at the end of a text. -/
def endSlashes (text : String) : Nat :=
  (text.toList.reverse.takeWhile fun c => c = '/').length

/-- A text is one without slashes at its end, and these slashes. -/
theorem toList_eq_append_slashes (text : String) :
  text.toList = (withoutSlashes text).toList ++ List.replicate (endSlashes text) '/'
  := by
  have hslashes : (text.toList.reverse.takeWhile fun c => c = '/')
      = List.replicate (endSlashes text) '/' := by
    rw [List.eq_replicate_iff]
    use rfl
    intro c hc
    have hslash := List.mem_takeWhile_imp (p := fun c => decide (c = '/')) hc
    apply of_decide_eq_true hslash
  have hparts := List.takeWhile_append_dropWhile (p := fun c => c = '/') (l := text.toList.reverse)
  rw [withoutSlashes, String.toList_ofList, Text.withoutSlashes, ← List.reverse_replicate,
    ← hslashes, ← List.reverse_append, hparts, List.reverse_reverse]

/-- A text has no slashes at its end exactly if the last character is none. -/
theorem endSlashes_eq_zero_iff (text : String) :
  endSlashes text = 0 ↔ text.toList.getLast? ≠ some '/'
  := by
  rw [endSlashes, List.length_eq_zero_iff, List.getLast?_eq_head?_reverse]
  cases text.toList.reverse with
  | nil => exact ⟨fun _ => nofun, fun _ => rfl⟩
  | cons c rest =>
    rw [List.takeWhile_cons]
    by_cases hc : c = '/'
    · simp [hc]
    · simp [hc]

/-- A text ends with no backslash exactly if it ends with a slash, or with a place that ends with
no backslash. -/
theorem last_ne_backslash_iff {text : String} {place : List Char}
    (h : endSlashes text = 0 → place.getLast? = text.toList.getLast?) :
  (endSlashes text = 0 → '\\' ∉ place.getLast?) ↔ text.toList.getLast? ≠ some '\\'
  := by
  by_cases hzero : endSlashes text = 0
  · rw [h hzero]
    exact ⟨fun hother => hother hzero, fun hother _ => hother⟩
  · have hslash := not_not.mp ((endSlashes_eq_zero_iff text).not.mp hzero)
    rw [hslash]
    exact ⟨fun _ => by decide, fun _ hzero' => absurd hzero' hzero⟩

/-- The name under which a service tells its events. -/
def eventName : List Char := "event".toList

theorem isName_eventName :
  IsName eventName
  := ⟨by decide, by decide, by decide⟩

/-- Slashes go on with a path. -/
theorem goesOn_slashes (n : Nat) :
  GoesOn (List.replicate n '/')
  := by
  constructor
  · intro c hc
    apply List.eq_of_mem_replicate (List.mem_of_mem_head? hc)
  · intro c hc
    rw [List.eq_of_mem_replicate hc]
    decide

/-- The name of the events goes on with a path. -/
theorem goesOn_event :
  GoesOn ('/' :: eventName)
  := by
  have hplain : ('/' :: eventName).all (fun c => !isAround c && c != '#' && c != '?') = true := by
    decide
  constructor
  · intro c hc
    rw [← Option.some.inj hc]
  · intro c hc
    have hc' := List.all_eq_true.mp hplain c hc
    rw [Bool.and_eq_true, Bool.and_eq_true, Bool.not_eq_true', bne_iff_ne, bne_iff_ne] at hc'
    exact ⟨hc'.1.1, hc'.1.2, hc'.2⟩

/-- Written behind the same characters, slashes and the name of the events differ. -/
theorem encode_slashes_ne_event {barred : Char → Bool} (hslash : barred '/' = false)
    (hname : Percent.encode barred ('/' :: eventName) = '/' :: eventName) (front : List Char)
    (n : Nat) :
  Percent.encode barred (front ++ List.replicate n '/')
    ≠ Percent.encode barred (front ++ '/' :: eventName)
  := by
  have hslashes : Percent.encode barred (List.replicate n '/') = List.replicate n '/' := by
    have hone : Percent.encodeChar barred '/' = ['/'] := by
      rw [Percent.encodeChar, hslash]
      rfl
    induction n with
    | zero => rfl
    | succ n ih =>
      rw [Percent.encode] at ih
      rw [List.replicate_succ, Percent.encode, List.flatMap_cons, hone, ih]
      rfl
  intro h
  rw [Percent.encode, Percent.encode, List.flatMap_append, List.flatMap_append] at h
  have hsame : List.replicate n '/' = '/' :: eventName := by
    rw [← hslashes, ← hname]
    apply List.append_cancel_left h
  have hmem : 't' ∈ List.replicate n '/' := by
    rw [hsame]
    decide
  exact absurd (List.eq_of_mem_replicate hmem) (by decide)

/-- The address of the events, as the client makes it. -/
theorem extend?_event {a : Address} {list : List (List Char)} (hweb : isWeb a.scheme = true)
    (hfile : a.scheme ≠ fileScheme) (hpath : a.path = .segments list) :
  a.extend? ["event"]
    = some { a with path := .segments (addSegment false (withoutEmptyEnd list) eventName) }
  := by
  have hplain : IsPlain (isWeb a.scheme) eventName := by
    rw [hweb]
    exact ⟨by decide, by decide, by decide, by decide⟩
  have hpush : push a.scheme (withoutEmptyEnd list) eventName
      = addSegment false (withoutEmptyEnd list) eventName := by
    rw [push_of_isPlain hplain, if_neg hfile]
  rw [extend?, hpath]
  simp only [List.map_cons, List.map_nil, List.foldl_cons, List.foldl_nil]
  rw [← hpush]
  rfl

/-- What goes behind the path of an address leaves its query and its fragment. -/
theorem marks_of_extend? {a b : Address} {texts : List String} (h : a.extend? texts = some b) :
  b.query = a.query ∧ b.fragment = a.fragment
  := by
  rw [extend?] at h
  split at h
  · cases h
  · rw [← Option.some.inj h]
    exact ⟨rfl, rfl⟩

/-- A name that went to the fragment is not one in the path. -/
theorem ne_extend?_of_fragment {a b : Address} {front : List Char} {n : Nat}
    (ha : a.fragment = some (Percent.encode Percent.inFragment (front ++ List.replicate n '/')))
    (hb : b.fragment = some (Percent.encode Percent.inFragment (front ++ '/' :: eventName))) :
  some b ≠ a.extend? ["event"]
  := by
  intro hsame
  have hfragment := (marks_of_extend? hsame.symm).2
  rw [ha, hb] at hfragment
  apply encode_slashes_ne_event rfl (by decide) front n (Option.some.inj hfragment).symm

/-- A name that went to the query is not one in the path. -/
theorem ne_extend?_of_query {a b : Address} {web : Bool} {front : List Char} {n : Nat}
    (ha : a.query = some (Percent.encode (Percent.inQuery web) (front ++ List.replicate n '/')))
    (hb : b.query = some (Percent.encode (Percent.inQuery web) (front ++ '/' :: eventName))) :
  some b ≠ a.extend? ["event"]
  := by
  intro hsame
  have hquery := (marks_of_extend? hsame.symm).1
  rw [ha, hb] at hquery
  cases web with
  | true => apply encode_slashes_ne_event rfl (by decide) front n (Option.some.inj hquery).symm
  | false => apply encode_slashes_ne_event rfl (by decide) front n (Option.some.inj hquery).symm

/-- The client reads the address of its service. -/
theorem read_of_base {server : String} {a : Address} (h : base server = .ok a) :
  Address.read server = .ok a
  := by
  rw [base] at h
  split at h
  · next b hread => rw [hread, Except.ok.inj h]
  · cases h

/-- The address that the client makes is the address of the service with more behind it. -/
theorem toOption_address (a : Address) (segments : List String) :
  (address a segments).toOption = a.extend? segments
  := by
  rw [address]
  cases a.extend? segments with
  | none => rfl
  | some b => rfl

/-- Where events are asked for is read from the text without its slashes. -/
theorem address_eventRequest? (server : String) :
  (eventRequest? server).map Request.address
    = (Address.read (withoutSlashes server ++ "/event")).toOption
  := by
  rw [eventRequest?]
  cases Address.read (withoutSlashes server ++ "/event") with
  | ok b => rfl
  | error fault => rfl

/-- The text of a service and the text where events are asked for differ in their ends: behind
the same characters stand slashes, or the name of the events. -/
theorem exists_read_eq {server : String}
    (hend : ∀ c ∈ server.toList.getLast?, isAround c = false) :
  ∃ front, Address.read server = readParts (front ++ List.replicate (endSlashes server) '/')
    ∧ Address.read (withoutSlashes server ++ "/event") = readParts (front ++ '/' :: eventName)
    ∧ (endSlashes server = 0 → front.getLast? = server.toList.getLast?)
  := by
  have hparts := toList_eq_append_slashes server
  have hnone : List.replicate (endSlashes server) '/' = [] →
      (withoutSlashes server).toList = server.toList := by
    intro hnil
    rw [hparts, hnil, List.append_nil]
  have hname : "/event".toList = '/' :: eventName := by decide
  have hclean : clean server.toList
      = ((withoutSlashes server).toList.dropWhile isAround).filter (fun c => !isUnseen c)
        ++ List.replicate (endSlashes server) '/' := by
    conv_lhs => rw [hparts]
    apply clean_append
    · intro c hc
      exact ((goesOn_slashes _).2 c hc).1
    · intro hnil
      rw [hnone hnil]
      exact hend
  use ((withoutSlashes server).toList.dropWhile isAround).filter fun c => !isUnseen c
  refine ⟨?_, ?_, ?_⟩
  · rw [read_eq, hclean]
  · rw [read_eq, String.toList_append, hname, clean_append]
    · intro c hc
      exact (goesOn_event.2 c hc).1
    · nofun
  · intro hzero
    rw [hzero, List.replicate_zero, List.append_nil] at hclean
    rw [← hclean]
    rcases List.eq_nil_or_concat server.toList with hnil | ⟨front, c, hserver⟩
    · rw [hnil]
      rfl
    · rw [List.concat_eq_append] at hserver
      have hc : isAround c = false := by
        apply hend
        rw [hserver]
        apply List.getLast?_concat
      have hlast : ∀ d ∈ [c], isAround d = false := by
        intro d hd
        rw [List.mem_singleton.mp hd, hc]
      rw [hserver, clean_append hlast nofun, List.getLast?_concat, List.getLast?_concat]

/-- An address without what stands behind its path has no query and no fragment. -/
theorem marks_of_unmarked {read : Except AddressFault Address} {a : Address}
    (h : read.map unmarked = .ok a) :
  a.query = none ∧ a.fragment = none
  := by
  cases read with
  | error fault => cases h
  | ok b =>
    rw [← Except.ok.inj h]
    exact ⟨rfl, rfl⟩

/-- Behind the path of a web address, the name of the events makes the same address as adding it
does, exactly if the slashes at the end of the path are those that adding leaves out. -/
theorem read_event_iff {scheme place : List Char} {n : Nat} {a : Address}
    (h : (readPlace scheme false (place ++ List.replicate n '/')).map unmarked = .ok a)
    (hweb : isWeb a.scheme = true) (hfile : a.scheme ≠ fileScheme)
    (hend : place ≠ [] → n = 0 → '/' ∉ place.getLast?) :
  place ≠ []
    ∧ (((readPlace scheme false (place ++ '/' :: eventName)).map unmarked).toOption
        = a.extend? ["event"]
      ↔ (n = 0 → '\\' ∉ place.getLast?)
        ∧ (n ≤ 1 ∧ a.path ≠ .segments [[], []] ∨ n = 2 ∧ a.path = .segments [[], []]))
  := by
  cases hread : readPlace scheme false (place ++ List.replicate n '/') with
  | error fault =>
    rw [hread] at h
    cases h
  | ok b =>
    rw [hread] at h
    obtain rfl : unmarked b = a := Except.ok.inj h
    have hscheme : (unmarked b).scheme = scheme := by
      rw [← scheme_of_readPlace hread]
      rfl
    rw [hscheme] at hweb hfile
    rcases readPlace_append hweb hfile place with
      hnone | ⟨hsome, head, path, hslash, hends, hpath⟩
    · rw [hnone] at hread
      cases hread
    · use hsome
      rw [hpath _ (goesOn_slashes n)] at hread
      rw [hpath _ goesOn_event]
      cases head with
      | error fault => cases hread
      | ok head =>
        rw [← Except.ok.inj hread]
        have hpaths := addSegment_path_iff hweb hfile hslash isName_eventName
          (fun hzero => (hends '/' rfl).not.mp (hend hsome hzero))
        have hextend := extend?_event
          (a := unmarked (head.address scheme (path ++ List.replicate n '/'))) hweb hfile rfl
        rw [hends '\\' rfl, hextend]
        simpa [Head.address, unmarked, Except.map, Except.toOption] using hpaths

/-- The client asks a service for the web for events where it asks for everything else, exactly if
the address of the service has no query and no fragment, and its text ends with a slash or none, or
with two if nothing else is in the path. -/
theorem event_address_eq_iff {server : String} {a : Address} (h : base server = .ok a)
    (hweb : isWeb a.scheme = true) (hfile : a.scheme ≠ fileScheme)
    (hend : ∀ c ∈ server.toList.getLast?, isAround c = false) :
  (eventRequest? server).map Request.address = (address a ["event"]).toOption
    ↔ a.query = none ∧ a.fragment = none ∧ server.toList.getLast? ≠ some '\\'
      ∧ (endSlashes server ≤ 1 ∧ a.path ≠ .segments [[], []]
        ∨ endSlashes server = 2 ∧ a.path = .segments [[], []])
  := by
  obtain ⟨front, hbase, hevents, hlast⟩ := exists_read_eq hend
  have hread := read_of_base h
  have hslashes := goesOn_slashes (endSlashes server)
  rw [address_eventRequest?, toOption_address, hevents]
  rw [hbase] at hread
  rcases readParts_append front with
    hnone | ⟨back, place, hplace⟩ | ⟨web, back, place, hplace⟩
    | ⟨scheme, place, hsuffix, hplace⟩
  · rw [hnone _ hslashes] at hread
    cases hread
  · rw [hplace _ hslashes] at hread
    rw [hplace _ goesOn_event]
    cases place with
    | error fault => cases hread
    | ok b =>
      rw [← Except.ok.inj hread]
      apply iff_of_false
      · apply ne_extend?_of_fragment rfl rfl
      · rintro ⟨-, hfragment, -⟩
        cases hfragment
  · rw [hplace _ hslashes] at hread
    rw [hplace _ goesOn_event]
    cases place with
    | error fault => cases hread
    | ok b =>
      rw [← Except.ok.inj hread]
      apply iff_of_false
      · apply ne_extend?_of_query rfl rfl
      · rintro ⟨hquery, -⟩
        cases hquery
  · rw [hplace _ hslashes] at hread
    rw [hplace _ goesOn_event]
    have hends : place ≠ [] → endSlashes server = 0 →
        place.getLast? = server.toList.getLast? := by
      intro hsome hzero
      rw [← hlast hzero, getLast?_eq_of_suffix hsuffix hsome]
    have hslash : place ≠ [] → endSlashes server = 0 → '/' ∉ place.getLast? := by
      intro hsome hzero
      rw [hends hsome hzero]
      exact (endSlashes_eq_zero_iff server).mp hzero
    obtain ⟨hsome, hsame⟩ := read_event_iff hread hweb hfile hslash
    obtain ⟨hquery, hfragment⟩ := marks_of_unmarked hread
    rw [hsame, last_ne_backslash_iff (hends hsome)]
    simp [hquery, hfragment]

/-- A service of this computer, with a path. -/
def localService (path : List (List Char)) : Address where
  scheme := "http".toList
  host := some (.ipv4 0x7F000001)
  port := some 4096
  path := .segments path

/-- Events are asked for at the right place if the address ends with a slash. -/
theorem event_address_eq_of_slash :
  base "http://127.0.0.1:4096/api/" = .ok (localService ["api".toList, []])
    ∧ (eventRequest? "http://127.0.0.1:4096/api/").map Request.address
      = (address (localService ["api".toList, []]) ["event"]).toOption
  := by
  have hbase : base "http://127.0.0.1:4096/api/" = .ok (localService ["api".toList, []]) := by
    decide +kernel
  have hlast : "http://127.0.0.1:4096/api/".toList.getLast? = some '/' := by decide
  have hend : ∀ c ∈ "http://127.0.0.1:4096/api/".toList.getLast?, isAround c = false := by
    intro c hc
    rw [← Option.some.inj (hlast.symm.trans hc)]
    rfl
  use hbase
  rw [event_address_eq_iff hbase (by decide) (by decide) hend]
  decide

/-- Behind a query, or a blank character that stands behind the address, events are asked for at
the wrong place. -/
theorem event_address_ne_of_query :
  ((base "http://127.0.0.1:4096/api?q=1").bind fun a => address a ["event"]).map Address.text
      = .ok "http://127.0.0.1:4096/api/event?q=1"
    ∧ (eventRequest? "http://127.0.0.1:4096/api?q=1").map (fun r => r.address.text)
      = some "http://127.0.0.1:4096/api?q=1/event"
    ∧ ((base "http://127.0.0.1:4096/api ").bind fun a => address a ["event"]).map Address.text
      = .ok "http://127.0.0.1:4096/api/event"
    ∧ (eventRequest? "http://127.0.0.1:4096/api ").map (fun r => r.address.text)
      = some "http://127.0.0.1:4096/api%20/event"
  := by decide +kernel

end TaskConsole.Client
