import TaskConsole.Proofs.Session.Model

/-!
# Commands under way

A `Dispatch` is a session together with the commands that it called for and that are under
way, and what came of the others.  Commands are carried out in any order, on a service that
may answer anything, between events of any kind (`Dispatch.Reachable`).  A model that was
asked for once is there, or under way, or could not be fetched (`Dispatch.Sought`), and the
session asks for the model of every agent that it turns to; so the header never waits for a
model that nobody has asked for (`Dispatch.sought_of_model_eq_none`).
-/

namespace TaskConsole

/-- A session with the commands that it called for. -/
structure Dispatch where
  session : Session
  /-- The commands that have not been carried out. -/
  underway : List Command
  /-- The commands that have been carried out, with what came of them, the latest first. -/
  resolved : List (Command × Outcome) := []

namespace Dispatch

open Session

/-- A session opens with the commands of its start under way. -/
def opened (snapshot : Snapshot) (agent : Agent) (agents : List Agent) (theme : Theme)
    (viewport : Viewport) : Dispatch where
  session := start snapshot agent agents theme viewport
  underway := (start snapshot agent agents theme viewport).startupCommands

/-- After an event, the commands that it calls for are under way. -/
def take (d : Dispatch) (now : Nat) (e : Event) : Dispatch :=
  { d with
    session := (d.session.handle now e).1
    underway := d.underway ++ (d.session.handle now e).2 }

/-- What comes of a command that is carried out on a service. -/
def outcomeOn (service : Service Id) (c : Command) : Outcome :=
  c.execute service fun _ => ()

/-- A command is carried out, and the session is told what came of it. -/
def resolve (d : Dispatch) (now : Nat) (service : Service Id) (c : Command) : Dispatch :=
  { d with
    underway := d.underway.erase c
    resolved := (c, outcomeOn service c) :: d.resolved : Dispatch }.take now
      (.outcome (outcomeOn service c))

/-- The states that can be reached: any event may happen, even an outcome that nobody asked
for, and any command that is under way may be carried out, on a service that answers as it
likes. -/
inductive Reachable (first : Dispatch) : Dispatch → Prop where
  | first : Reachable first first
  | event {d : Dispatch} (h : Reachable first d) (now : Nat) (e : Event) :
    Reachable first (d.take now e)
  | resolution {d : Dispatch} (h : Reachable first d) (now : Nat) (service : Service Id)
    {c : Command} (hc : c ∈ d.underway) : Reachable first (d.resolve now service c)

/-- A model is sought when fetching it is under way, or has failed. -/
def Sought (d : Dispatch) (modelId : String) : Prop :=
  .fetchModel modelId ∈ d.underway
    ∨ ∃ notice, (.fetchModel modelId, .modelFetched modelId (.error notice)) ∈ d.resolved

/-- A model is provided for when it has been fetched, or is sought. -/
def ProvidedFor (d : Dispatch) (modelId : String) : Prop :=
  (d.session.model? modelId).isSome ∨ d.Sought modelId

/-! ### One event -/

/-- A model that a session has, it has after every event. -/
theorem isSome_model?_handle
    {s : Session} {modelId : String} (h : (s.model? modelId).isSome) (now : Nat) (e : Event) :
  ((s.handle now e).1.model? modelId).isSome
  := by
  rw [model?_handle]
  cases (s.modelsTold now e).lookup modelId with
  | some info => rfl
  | none => exact h

/-- A model that is provided for stays so at every event. -/
theorem ProvidedFor.take
    {d : Dispatch} {modelId : String} (h : d.ProvidedFor modelId) (now : Nat) (e : Event) :
  (d.take now e).ProvidedFor modelId
  := by
  rcases h with hfetched | hunderway | hfailed
  · left
    apply isSome_model?_handle hfetched
  · right
    left
    apply List.mem_append_left _ hunderway
  · right
    right
    exact hfailed

/-- The model of the active agent has been fetched, or is fetched by a command that the
session calls for. -/
theorem mem_modelCommands (s : Session) :
  (s.model? s.agent.modelId).isSome ∨ .fetchModel s.agent.modelId ∈ s.modelCommands
  := by
  rw [modelCommands]
  split
  · next hfetched => exact .inl hfetched
  · exact .inr List.mem_cons_self

/-- If the model of the agent before an event is provided for after it, so is the model of
the agent after it. -/
theorem providedFor_agent_take
    {d : Dispatch} {now : Nat} {e : Event}
    (h : (d.take now e).ProvidedFor d.session.agent.modelId) :
  (d.take now e).ProvidedFor (d.take now e).session.agent.modelId
  := by
  rcases d.session.agent_handle now e with hagent | hcommands
  · have hsame : (d.take now e).session.agent = d.session.agent := hagent
    rw [hsame]
    exact h
  · rcases mem_modelCommands (d.session.handle now e).1 with hfetched | hcalled
    · exact .inl hfetched
    · right
      left
      apply List.mem_append_right
      rw [hcommands]
      exact hcalled

/-! ### One command -/

/-- Fetching a model tells the model, or that it failed. -/
theorem outcomeOn_fetchModel (service : Service Id) (modelId : String) :
  (∃ info, outcomeOn service (.fetchModel modelId) = .modelFetched modelId (.ok info))
    ∨ ∃ notice, outcomeOn service (.fetchModel modelId) = .modelFetched modelId (.error notice)
  := by
  have houtcome : outcomeOn service (.fetchModel modelId)
      = .modelFetched modelId (tell (fun _ => ()) (service.getModel modelId) : Id _) := rfl
  rw [houtcome]
  cases (service.getModel modelId : Except Failure ModelInfo) with
  | ok info => exact .inl ⟨info, rfl⟩
  | error failure => exact .inr ⟨failure.notice, rfl⟩

/-- A session has a model that it is told. -/
theorem isSome_model?_of_told (s : Session) (now : Nat) (modelId : String) (info : ModelInfo) :
  ((s.handle now (.outcome (.modelFetched modelId (.ok info)))).1.model? modelId).isSome
  := by
  have htold : s.modelsTold now (.outcome (.modelFetched modelId (.ok info)))
      = [(modelId, info)] := rfl
  rw [model?_handle, htold, List.lookup_cons_self]
  rfl

/-- A model that is provided for stays so when a command is carried out. -/
theorem ProvidedFor.resolve
    {d : Dispatch} {modelId : String} (h : d.ProvidedFor modelId) (now : Nat)
    (service : Service Id) (c : Command) :
  (d.resolve now service c).ProvidedFor modelId
  := by
  by_cases hc : c = .fetchModel modelId
  · subst hc
    rcases outcomeOn_fetchModel service modelId with ⟨info, hinfo⟩ | ⟨notice, hnotice⟩
    · left
      rw [Dispatch.resolve, hinfo]
      apply isSome_model?_of_told _ now
    · right
      right
      use notice
      rw [Dispatch.resolve, hnotice]
      apply List.mem_cons_self
  · -- any other command leaves the fetching of this model under way
    apply ProvidedFor.take
    rcases h with hfetched | hunderway | ⟨notice, hfailed⟩
    · exact .inl hfetched
    · right
      left
      apply (List.mem_erase_of_ne (Ne.symm hc)).mpr hunderway
    · right
      right
      exact ⟨notice, List.mem_cons_of_mem _ hfailed⟩

/-! ### Reachable states -/

section Opened

variable {snapshot : Snapshot} {agent : Agent} {agents : List Agent} {theme : Theme}
  {viewport : Viewport}

/-- In every reachable state the session shows the model of its agent if it has it. -/
theorem Reachable.showsModel
    {d : Dispatch} (h : Reachable (opened snapshot agent agents theme viewport) d) :
  d.session.ShowsModel
  := by
  induction h with
  | first => apply showsModel_start
  | event _ now e ih => apply ih.handle
  | resolution _ now service _ ih => apply ih.handle

/-- In every reachable state the model of the active agent is provided for. -/
theorem Reachable.providedFor
    {d : Dispatch} (h : Reachable (opened snapshot agent agents theme viewport) d) :
  d.ProvidedFor d.session.agent.modelId
  := by
  induction h with
  | first =>
    rcases mem_modelCommands (start snapshot agent agents theme viewport) with hfetched | hcalled
    · exact .inl hfetched
    · right
      left
      apply List.mem_cons_of_mem _ hcalled
  | event _ now e ih => apply providedFor_agent_take (ih.take now e)
  | resolution _ now service _ ih => apply providedFor_agent_take (ih.resolve now service _)

/-- In every reachable state in which no model is shown, fetching the model of the active
agent is under way, or fetching it has failed. -/
theorem sought_of_model_eq_none
    {d : Dispatch} (h : Reachable (opened snapshot agent agents theme viewport) d)
    (hmodel : d.session.model = none) :
  .fetchModel d.session.agent.modelId ∈ d.underway
    ∨ ∃ notice, (.fetchModel d.session.agent.modelId,
      .modelFetched d.session.agent.modelId (.error notice)) ∈ d.resolved
  := by
  rcases h.providedFor with hfetched | hsought
  · rw [← h.showsModel, hmodel] at hfetched
    exact (Bool.false_ne_true hfetched).elim
  · exact hsought

end Opened

/-- The user turns to the second agent before the model of the first one is told, and the
model of the second one cannot be fetched: no model is shown, neither while it is being
fetched nor after it failed. -/
theorem sought_of_model_eq_none_after_turning :
  let first : Agent := ⟨"a", "A", "m"⟩
  let second : Agent := ⟨"b", "B", "n"⟩
  let opened := opened { task := { id := "t" } } first [first, second] {} (.ofScreen 80 24)
  let service : Service Id := {
    listTasks := Except.error .cancelled
    createTask := fun _ => Except.error .cancelled
    getTask := fun _ => Except.error .cancelled
    createMessage := fun _ _ _ => Except.error .cancelled
    suspendTask := fun _ => Except.error .cancelled
    getModel := fun modelId =>
      if modelId = "m" then Except.ok { name := "M" } else Except.error (.transport "down")
    listAgents := Except.error .cancelled }
  let late := (opened.take 0 (.key .nextAgent)).resolve 1 service (.fetchModel "m")
  let failed := late.resolve 2 service (.fetchModel "n")
  (Reachable opened late ∧ late.session.agent = second ∧ late.session.models.length = 1
    ∧ late.session.model = none ∧ late.Sought "n")
  ∧ Reachable opened failed ∧ failed.underway = [.fetchTask "t"]
    ∧ failed.session.model = none ∧ failed.Sought "n"
  := by
  intro first second opened service late failed
  have hlate : Reachable opened late := by
    apply Reachable.resolution (Reachable.event .first 0 (.key .nextAgent))
    decide
  have hfailed : Reachable opened failed := by
    apply Reachable.resolution hlate
    decide
  have hlateModel : late.session.model = none := by decide
  have hfailedModel : failed.session.model = none := by decide
  use ⟨hlate, by decide, by decide, hlateModel, sought_of_model_eq_none hlate hlateModel⟩
  exact ⟨hfailed, by decide, hfailedModel, sought_of_model_eq_none hfailed hfailedModel⟩

end Dispatch

end TaskConsole
