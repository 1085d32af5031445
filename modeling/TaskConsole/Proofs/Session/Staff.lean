import TaskConsole.Proofs.Session.Run

/-!
# Agents and their models

Of all that an event does to a session, its `Change` is what concerns the agents and their
models: the user turns to the next agent, a model is told, or a roster.
`Session.amend` does no more than a change asks for, and `Session.handle` is
`StaffedAlike` to it.
-/

namespace TaskConsole.Session

/-! ### Changes -/

/-- What an event means for the agents and their models. -/
inductive Change where
  /-- The event concerns something else. -/
  | aside
  /-- The user turns to the next agent. -/
  | next
  /-- A model is told. -/
  | learn (modelId : String) (info : ModelInfo)
  /-- A roster is told. -/
  | enroll (agents : List Agent)

/-- What an event means for the agents and the models of a session. -/
def change (s : Session) : Event → Change
  | .key .nextAgent => if s.mode = .input ∧ 1 < s.agents.length then .next else .aside
  | .outcome (.modelFetched modelId (.ok info)) => .learn modelId info
  | .outcome (.agentsListed (.ok agents)) => .enroll agents
  | _ => .aside

/-- A session in which an agent is the active one; its model is shown if it has been fetched. -/
def turnedTo (s : Session) (agent : Agent) : Session :=
  { s with agent := agent, model := s.model? agent.modelId }

/-- What a change does to a session. -/
def amend (s : Session) : Change → Session
  | .aside => s
  | .next => s.turnedTo (s.nextAgent?.getD s.agent)
  | .learn modelId info =>
    { s with
      model := if modelId = s.agent.modelId then some info else s.model
      models := (modelId, info) :: s.models.filter fun m => m.1 != modelId }
  | .enroll agents => { s with agents := agents }

/-- Two sessions are staffed alike when they agree in the agents and their models. -/
structure StaffedAlike (s s' : Session) : Prop where
  agent : s.agent = s'.agent
  agents : s.agents = s'.agents
  models : s.models = s'.models
  model : s.model = s'.model

theorem StaffedAlike.refl (s : Session) :
  StaffedAlike s s
  := ⟨rfl, rfl, rfl, rfl⟩

/-- A notice changes nothing about the agents. -/
theorem notify_staffedAlike (s : Session) (n : Notice) :
  StaffedAlike (s.notify n) s
  := by
  obtain ⟨_, _, hnotify⟩ := s.exists_notify_eq n
  rw [hnotify]
  exact ⟨rfl, rfl, rfl, rfl⟩

/-- A snapshot changes nothing about the agents. -/
theorem apply_staffedAlike (s : Session) (snapshot : Snapshot) :
  StaffedAlike (s.apply snapshot) s
  := by
  obtain ⟨_, happly⟩ := s.exists_apply_eq snapshot
  obtain ⟨_, _, _, _, hentries⟩ := exists_foldl_met_eq snapshot.entries s
  rw [happly, hentries]
  exact ⟨rfl, rfl, rfl, rfl⟩

/-- A key makes the change that it means. -/
theorem handleKey_staffedAlike (s : Session) (now : Nat) (action : KeyAction) :
  StaffedAlike (s.handleKey now action).1 (s.amend (s.change (.key action)))
  := by
  obtain ⟨_, _, _, _, _, _, hkey⟩ := s.exists_handleKey_eq now action
  have hsame : StaffedAlike (s.handleKey now action).1
      (if s.mode = .input then s.enact action else s) := by
    rw [hkey]
    exact ⟨rfl, rfl, rfl, rfl⟩
  cases hmode : s.mode with
  | help =>
    rw [hmode, if_neg (by decide)] at hsame
    cases action with
    | nextAgent =>
      rw [change, if_neg (fun h => by rw [hmode] at h; cases h.1)]
      exact hsame
    | _ => exact hsame
  | input =>
    rw [hmode, if_pos rfl] at hsame
    cases action with
    | submit =>
      rw [enact] at hsame
      split at hsame
      · exact ⟨hsame.agent, hsame.agents, hsame.models, hsame.model⟩
      · exact hsame
    | nextAgent =>
      rw [enact, switchAgent] at hsame
      by_cases hlength : s.agents.length ≤ 1
      · rw [if_pos hlength] at hsame
        rw [change, if_neg (fun h => Nat.not_lt.mpr hlength h.2)]
        exact hsame
      · rw [if_neg hlength] at hsame
        rw [change, if_pos ⟨hmode, Nat.not_le.mp hlength⟩]
        exact hsame
    | _ => exact hsame

/-- An outcome makes the change that it means. -/
theorem handleOutcome_staffedAlike (s : Session) (o : Outcome) :
  StaffedAlike (s.handleOutcome o).1 (s.amend (s.change (.outcome o)))
  := by
  cases o with
  | messageSent taskId text result =>
    simp only [handleOutcome]
    split
    · cases result with
      | ok _ => apply StaffedAlike.refl
      | error notice =>
        have hnotice := notify_staffedAlike
          { s with waiting := false, echoes := s.echoes.erase text } notice
        exact ⟨hnotice.agent, hnotice.agents, hnotice.models, hnotice.model⟩
    · apply StaffedAlike.refl
  | taskSuspended taskId result =>
    simp only [handleOutcome]
    split
    · cases result with
      | ok _ => apply StaffedAlike.refl
      | error notice => apply notify_staffedAlike
    · apply StaffedAlike.refl
  | taskFetched taskId result =>
    simp only [handleOutcome]
    split
    · cases result with
      | ok snapshot => apply apply_staffedAlike
      | error notice => apply notify_staffedAlike
    · apply StaffedAlike.refl
  | modelFetched modelId result =>
    cases result with
    | ok info => apply StaffedAlike.refl
    | error notice => apply notify_staffedAlike
  | agentsListed result =>
    cases result with
    | ok agents => apply StaffedAlike.refl
    | error notice => apply notify_staffedAlike

/-- An event makes the change that it means. -/
theorem handle_staffedAlike (s : Session) (now : Nat) (e : Event) :
  StaffedAlike (s.handle now e).1 (s.amend (s.change e))
  := by
  cases e with
  | key action => apply handleKey_staffedAlike
  | outcome o => apply handleOutcome_staffedAlike
  | resize width height => exact ⟨rfl, rfl, rfl, rfl⟩
  | serverTask taskId => apply StaffedAlike.refl
  | tick => exact ⟨rfl, rfl, rfl, rfl⟩

/-! ### The active agent -/

/-- The user turns to the next agent by the key for it, while the prompt has the keys and
there are several agents. -/
theorem change_eq_next_iff {s : Session} {e : Event} :
  s.change e = .next ↔ e = .key .nextAgent ∧ s.mode = .input ∧ 1 < s.agents.length
  := by
  constructor
  · intro h
    rw [change.eq_def] at h
    split at h
    · split at h
      · next hturn => exact ⟨rfl, hturn⟩
      · cases h
    · cases h
    · cases h
    · cases h
  · rintro ⟨rfl, hturn⟩
    apply if_pos hturn

/-- An event leaves the active agent, or calls for the model of the one that it turns to. -/
theorem agent_handle (s : Session) (now : Nat) (e : Event) :
  (s.handle now e).1.agent = s.agent ∨ (s.handle now e).2 = (s.handle now e).1.modelCommands
  := by
  have hagent := (s.handle_staffedAlike now e).agent
  cases hchange : s.change e with
  | next =>
    right
    obtain ⟨rfl, hmode, hlength⟩ := change_eq_next_iff.mp hchange
    have hlength' : ¬ (s.disarm .nextAgent).agents.length ≤ 1 := Nat.not_le.mpr hlength
    rw [handle, handleKey_input hmode now (by decide), handleInput, switchAgent,
      if_neg hlength']
    rfl
  | _ =>
    left
    rw [hagent, hchange]
    rfl

end TaskConsole.Session
