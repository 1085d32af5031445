import Mathlib.Data.List.Nodup
import TaskConsole.Proofs.Session.Staff

/-!
# Turning from agent to agent

Each press of the key for the next agent leads to the agent behind the active one in the
roster, or to the first one (`Session.nextPlace`).  The place is looked for anew at each press,
by the id; but where no two agents share an id, the agent that a press leads to is found there
at the next press, so presses go round the roster, whatever happens between them
(`Session.agent_run_of_presses`).  Each press asks for the model of the agent that it leads to,
unless the session has it (`Session.presses_go_round`).
-/

namespace TaskConsole.Session

/-! ### The next place -/

/-- The place in the roster of the agent that a press leads to. -/
def nextPlace (s : Session) : Nat :=
  match s.agents.findIdx? fun a => a.id = s.agent.id with
  | some i => (i + 1) % s.agents.length
  | none => 0

theorem nextAgent?_eq (s : Session) :
  s.nextAgent? = s.agents[s.nextPlace]?
  := by
  rw [nextAgent?, nextPlace]
  cases s.agents.findIdx? fun a => a.id = s.agent.id with
  | some i => rfl
  | none => rfl

/-- A press leads to a place of the roster. -/
theorem nextPlace_lt {s : Session} (h : 0 < s.agents.length) :
  s.nextPlace < s.agents.length
  := by
  rw [nextPlace]
  split
  · apply Nat.mod_lt _ h
  · exact h

/-- Where no two agents share an id, a press leads to the place behind that of the active
agent's id, and from the last place to the first one. -/
theorem nextPlace_of_place
    {s : Session} (hids : (s.agents.map Agent.id).Nodup) {i : Nat}
    (h : (s.agents.map Agent.id)[i]? = some s.agent.id) :
  s.nextPlace = (i + 1) % s.agents.length
  := by
  have hfound : s.agents.findIdx? (fun a => a.id = s.agent.id) = some i := by
    obtain ⟨hi, hid⟩ := List.getElem?_eq_some_iff.mp h
    rw [List.findIdx?_eq_some_iff_getElem]
    rw [List.length_map] at hi
    rw [List.getElem_map] at hid
    use hi, decide_eq_true hid
    intro j hji hsame
    have hplaces : (s.agents.map Agent.id)[j]? = (s.agents.map Agent.id)[i]? := by
      rw [h, List.getElem?_map, List.getElem?_eq_getElem (Nat.lt_trans hji hi), Option.map_some,
        of_decide_eq_true hsame]
    have hj : j < (s.agents.map Agent.id).length := by
      rw [List.length_map]
      exact Nat.lt_trans hji hi
    exact Nat.ne_of_lt hji ((List.getElem?_inj hj hids).mp hplaces)
  rw [nextPlace, hfound]

/-- If no agent of the roster has the active agent's id, a press leads to the first one. -/
theorem nextPlace_of_absent {s : Session} (h : ∀ a ∈ s.agents, a.id ≠ s.agent.id) :
  s.nextPlace = 0
  := by
  have hnone : s.agents.findIdx? (fun a => a.id = s.agent.id) = none := by
    rw [List.findIdx?_eq_none_iff]
    intro a ha
    apply decide_eq_false (h a ha)
  rw [nextPlace, hnone]

/-! ### One event -/

/-- The press of the key for the next agent that an event is, by its time, if the prompt has
the keys. -/
def pressed (s : Session) (now : Nat) : Event → List Nat
  | .key .nextAgent => if s.mode = .input then [now] else []
  | _ => []

/-- No event but a roster that is told changes the roster. -/
theorem agents_handle
    (s : Session) (now : Nat) {e : Event}
    (h : ∀ agents, e ≠ .outcome (.agentsListed (.ok agents))) :
  (s.handle now e).1.agents = s.agents
  := by
  rw [(s.handle_staffedAlike now e).agents]
  cases hchange : s.change e with
  | enroll agents =>
    rw [change.eq_def] at hchange
    split at hchange
    · split at hchange
      · cases hchange
      · cases hchange
    · cases hchange
    · next told => exact (h told rfl).elim
    · cases hchange
  | _ => rfl

/-- No event but a press turns to another agent. -/
theorem agent_handle_of_unpressed
    {s : Session} {now : Nat} {e : Event} (h : s.pressed now e = []) :
  (s.handle now e).1.agent = s.agent
  := by
  rw [(s.handle_staffedAlike now e).agent]
  cases hchange : s.change e with
  | next =>
    obtain ⟨rfl, hmode, -⟩ := change_eq_next_iff.mp hchange
    rw [pressed, if_pos hmode] at h
    cases h
  | _ => rfl

/-- In a roster of several, a press turns to the agent at the next place. -/
theorem agent_handle_of_press
    {s : Session} (hseveral : 1 < s.agents.length) (hmode : s.mode = .input) (now : Nat) :
  s.agents[s.nextPlace]? = some (s.handle now (.key .nextAgent)).1.agent
  := by
  have hlt : s.nextPlace < s.agents.length := nextPlace_lt (Nat.lt_of_succ_lt hseveral)
  have hchange : s.change (.key .nextAgent) = .next := by
    rw [change_eq_next_iff]
    exact ⟨rfl, hmode, hseveral⟩
  rw [(s.handle_staffedAlike now _).agent, hchange, amend, turnedTo, nextAgent?_eq,
    List.getElem?_eq_getElem hlt, Option.getD_some]

/-- In a roster of several, a press asks for the model of the agent that it turns to, unless
the session has it. -/
theorem commands_of_press
    {s : Session} (hseveral : 1 < s.agents.length) (hmode : s.mode = .input) (now : Nat) :
  (s.handle now (.key .nextAgent)).2 =
    let agent := (s.handle now (.key .nextAgent)).1.agent
    if (s.model? agent.modelId).isSome then [] else [.fetchModel agent.modelId]
  := by
  have hseveral' : ¬ (s.disarm .nextAgent).agents.length ≤ 1 := Nat.not_le.mpr hseveral
  rw [handle, handleKey_input hmode now (by decide), handleInput, switchAgent, if_neg hseveral']
  rfl

/-! ### Runs -/

/-- The number of presses in a run. -/
def presses (s : Session) (events : List (Nat × Event)) : Nat := (s.along pressed events).length

/-- As long as no roster is told, a run leaves the active agent if there is no press in it, and
otherwise leads to the agent that stands as many places behind the one that the first press
leads to as there are further presses. -/
theorem agent_run_of_presses
    {s : Session} (hseveral : 1 < s.agents.length) (hids : (s.agents.map Agent.id).Nodup)
    {events : List (Nat × Event)}
    (hroster : ∀ event ∈ events, ∀ agents, event.2 ≠ .outcome (.agentsListed (.ok agents))) :
  (s.run events).agents = s.agents
    ∧ (s.presses events = 0 → (s.run events).agent = s.agent)
    ∧ (0 < s.presses events →
      s.agents[(s.nextPlace + (s.presses events - 1)) % s.agents.length]?
        = some (s.run events).agent)
  := by
  induction events generalizing s with
  | nil => exact ⟨rfl, fun _ => rfl, fun h => (Nat.lt_irrefl 0 h).elim⟩
  | cons event events ih =>
    obtain ⟨now, e⟩ := event
    have hagents := s.agents_handle now (hroster (now, e) List.mem_cons_self)
    have hrest := ih (s := (s.handle now e).1) (by rwa [hagents]) (by rwa [hagents])
      fun event hevent => hroster event (List.mem_cons_of_mem _ hevent)
    rw [hagents] at hrest
    obtain ⟨hsame, hnone, hsome⟩ := hrest
    have hrun : s.run ((now, e) :: events) = (s.handle now e).1.run events := rfl
    have hcount : s.presses ((now, e) :: events)
        = (s.pressed now e).length + (s.handle now e).1.presses events := by
      rw [presses, along, List.length_append, presses]
    rw [hrun, hcount]
    use hsame
    cases hpressed : s.pressed now e with
    | nil =>
      have hagent := agent_handle_of_unpressed hpressed
      have hnext : (s.handle now e).1.nextPlace = s.nextPlace := by
        rw [nextPlace, nextPlace, hagents, hagent]
      rw [List.length_nil, Nat.zero_add, ← hagent, ← hnext]
      exact ⟨hnone, hsome⟩
    | cons time times =>
      have hpress : e = .key .nextAgent ∧ s.mode = .input ∧ times = [] := by
        rw [pressed.eq_def] at hpressed
        split at hpressed
        · split at hpressed
          · next hmode => exact ⟨rfl, hmode, (List.cons.inj hpressed).2.symm⟩
          · cases hpressed
        · cases hpressed
      obtain ⟨rfl, hmode, rfl⟩ := hpress
      have hagent := agent_handle_of_press hseveral hmode now
      have hlt : s.nextPlace < s.agents.length := nextPlace_lt (Nat.lt_of_succ_lt hseveral)
      -- the agent that the press leads to is found at its place at the next press
      have hnext : (s.handle now (.key .nextAgent)).1.nextPlace
          = (s.nextPlace + 1) % s.agents.length := by
        rw [← hagents]
        apply nextPlace_of_place
        · rwa [hagents]
        · rw [hagents, List.getElem?_map, hagent]
          rfl
      rw [hnext] at hsome
      constructor
      · intro hzero
        rw [List.length_singleton, Nat.add_comm] at hzero
        cases hzero
      intro _
      rcases Nat.eq_zero_or_pos ((s.handle now (.key .nextAgent)).1.presses events)
        with hlast | hmore
      · rw [hnone hlast, hlast, ← hagent]
        congr 1
        apply Nat.mod_eq_of_lt hlt
      · rw [← hsome hmore, Nat.mod_add_mod]
        congr 2
        rw [List.length_singleton]
        omega

/-- In a roster of several agents with ids of their own, presses of the key for the next agent
go round, whatever comes between them except another roster.  After presses that come to the
prompt, as many as there are in the run, the active agent is the one as many places behind that
of its id before, counted round the roster; and if its id was not in the roster, the first press
leads to the first agent.  Each press leads to a place of the roster, and calls for the model of
the agent there exactly if the session does not have it at that moment, and for nothing else. -/
theorem presses_go_round
    (s : Session) (hseveral : 1 < s.agents.length) (hids : (s.agents.map Agent.id).Nodup)
    (events : List (Nat × Event))
    (hroster : ∀ event ∈ events, ∀ agents, event.2 ≠ .outcome (.agentsListed (.ok agents))) :
  let roster := s.agents
  let k := s.presses events
  (∀ i, (roster.map Agent.id)[i]? = some s.agent.id → 0 < k →
      roster[(i + k) % roster.length]? = some (s.run events).agent)
    ∧ ((∀ a ∈ roster, a.id ≠ s.agent.id) → 0 < k →
      roster[(k - 1) % roster.length]? = some (s.run events).agent)
    ∧ (k = 0 → (s.run events).agent = s.agent)
    ∧ ∀ before now, before ++ [(now, .key .nextAgent)] <+: events → (s.run before).mode = .input →
      let place := (s.run before).nextPlace
      let agent := ((s.run before).handle now (.key .nextAgent)).1.agent
      place < roster.length ∧ roster[place]? = some agent
        ∧ ((s.run before).handle now (.key .nextAgent)).2 =
          if ((s.run before).model? agent.modelId).isSome then [] else [.fetchModel agent.modelId]
  := by
  intro roster k
  obtain ⟨-, hnone, hsome⟩ := agent_run_of_presses hseveral hids hroster
  constructor
  · intro i hi hk
    rw [← hsome hk, nextPlace_of_place hids hi, Nat.mod_add_mod]
    congr 2
    have hk' : 0 < s.presses events := hk
    omega
  constructor
  · intro habsent hk
    rw [← hsome hk, nextPlace_of_absent habsent, Nat.zero_add]
  use hnone
  intro before now hpart hmode place agent
  have hbefore : ∀ event ∈ before, ∀ agents,
      event.2 ≠ .outcome (.agentsListed (.ok agents)) := by
    intro event hevent
    apply hroster
    apply hpart.subset
    apply List.mem_append_left _ hevent
  have hagents : (s.run before).agents = roster :=
    (agent_run_of_presses hseveral hids hbefore).1
  have hseveral' : 1 < (s.run before).agents.length := by rwa [hagents]
  have hplace := nextPlace_lt (Nat.lt_of_succ_lt hseveral')
  have hagent := agent_handle_of_press hseveral' hmode now
  rw [hagents] at hplace hagent
  exact ⟨hplace, hagent, commands_of_press hseveral' hmode now⟩

/-- The second of three agents is active, and the key is pressed four times; the second time it
only closes the help, so three presses come to the prompt and lead back to the second agent.
The second of these leads to the first agent, whose model has been told, and calls for nothing.
From an agent that is not in the roster the same keys lead to the third. -/
theorem presses_go_round_of_three :
  let roster : List Agent := [⟨"a", "A", "m"⟩, ⟨"b", "B", "n"⟩, ⟨"c", "C", "n"⟩]
  let events : List (Nat × Event) := [(0, .key .nextAgent), (1, .key .help),
    (2, .outcome (.modelFetched "m" (.ok { name := "M" }))), (3, .key .nextAgent),
    (4, .key .nextAgent), (5, .key .nextAgent)]
  let opened := fun agent : Agent =>
    start { task := { id := "t" } } agent roster {} (.ofScreen 80 24)
  let own := opened ⟨"b", "B", "n"⟩
  let foreign := opened ⟨"z", "Z", "m"⟩
  own.presses events = 3 ∧ (own.run events).agent = ⟨"b", "B", "n"⟩
    ∧ ((own.run (events.take 4)).handle 4 (.key .nextAgent)).2 = []
    ∧ foreign.presses events = 3 ∧ (foreign.run events).agent = ⟨"c", "C", "n"⟩
  := by
  intro roster events opened own foreign
  have hroster : ∀ event ∈ events, ∀ agents, event.2 ≠ .outcome (.agentsListed (.ok agents)) := by
    simp [events]
  have hown : own.presses events = 3 := by decide
  have hforeign : foreign.presses events = 3 := by decide
  obtain ⟨hround, -, -, hpress⟩ := presses_go_round own (by decide) (by decide) events hroster
  obtain ⟨-, hfirst, -, -⟩ := presses_go_round foreign (by decide) (by decide) events hroster
  have hagents : own.agents = roster ∧ foreign.agents = roster := by decide
  have hback := hround 1 (by decide) (by rw [hown]; decide)
  have hthird := hfirst (by decide) (by rw [hforeign]; decide)
  obtain ⟨-, -, hcalled⟩ := hpress (events.take 4) 4 ⟨[(5, .key .nextAgent)], rfl⟩ (by decide)
  rw [hown, hagents.1] at hback
  rw [hforeign, hagents.2] at hthird
  use hown, Option.some.inj (hback.symm.trans (by decide))
  constructor
  · rw [hcalled]
    decide
  · exact ⟨hforeign, Option.some.inj (hthird.symm.trans (by decide))⟩

end TaskConsole.Session
