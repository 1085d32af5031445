import TaskConsole.Proofs.Session.Staff

/-!
# The model that is shown

A session shows the model of its agent whenever it has it (`Session.ShowsModel`), and it has
of each model what was told last (`Session.model?_run`).  So in every state the shown model
is what was told last of the model of the active agent, whatever was told for other agents
and in whatever order (`Session.model_eq_told_last`).
-/

namespace TaskConsole.Session

/-- The model that is told in a change, with its name. -/
def Change.told : Change → List (String × ModelInfo)
  | .learn modelId info => [(modelId, info)]
  | _ => []

/-- The model that the service tells at an event, with its name. -/
def modelsTold (s : Session) (_now : Nat) (e : Event) : List (String × ModelInfo) :=
  (s.change e).told

/-- The model of the active agent is shown exactly if it has been fetched. -/
def ShowsModel (s : Session) : Prop := s.model = s.model? s.agent.modelId

/-- A model that is told takes the place of what was told of it before. -/
theorem lookup_cons_filter
    (models : List (String × ModelInfo)) (modelId : String) (info : ModelInfo) (id : String) :
  ((modelId, info) :: models.filter fun m => m.1 != modelId).lookup id
    = if id = modelId then some info else models.lookup id
  := by
  by_cases h : id = modelId
  · rw [if_pos h, h, List.lookup_cons_self]
  · have hne : (id == modelId) = false := beq_eq_false_iff_ne.mpr h
    rw [if_neg h, List.lookup_cons, hne]
    induction models with
    | nil => rfl
    | cons m models ih =>
      obtain ⟨name, model⟩ := m
      by_cases hname : name = modelId
      · rw [List.filter_cons_of_neg (by simpa using hname), List.lookup_cons, hname, hne]
        exact ih
      · rw [List.filter_cons_of_pos (by simpa using hname), List.lookup_cons, List.lookup_cons]
        cases id == name with
        | true => rfl
        | false => exact ih

/-- After an event, a session has of each model what the event tells, or else what it had. -/
theorem model?_handle (s : Session) (now : Nat) (e : Event) (id : String) :
  (s.handle now e).1.model? id = ((s.modelsTold now e).lookup id).or (s.model? id)
  := by
  rw [model?, (s.handle_staffedAlike now e).models, modelsTold]
  cases s.change e with
  | learn modelId info =>
    simp only [amend, Change.told]
    rw [lookup_cons_filter, List.lookup_cons, List.lookup_nil]
    by_cases h : id = modelId
    · rw [if_pos h, beq_iff_eq.mpr h]
      rfl
    · rw [if_neg h, beq_eq_false_iff_ne.mpr h]
      rfl
  | _ => rfl

/-- Every event leaves the model of the active agent shown. -/
theorem ShowsModel.handle {s : Session} (h : s.ShowsModel) (now : Nat) (e : Event) :
  (s.handle now e).1.ShowsModel
  := by
  obtain ⟨hagent, -, hmodels, hmodel⟩ := s.handle_staffedAlike now e
  rw [ShowsModel, hmodel, model?, hmodels, hagent]
  cases s.change e with
  | aside => exact h
  | next => rfl
  | enroll agents => exact h
  | learn modelId info =>
    simp only [amend]
    rw [lookup_cons_filter]
    by_cases hname : modelId = s.agent.modelId
    · rw [if_pos hname, if_pos hname.symm]
    · rw [if_neg hname, if_neg (Ne.symm hname)]
      exact h

/-- Every run leaves the model of the active agent shown. -/
theorem ShowsModel.run {s : Session} (h : s.ShowsModel) (events : List (Nat × Event)) :
  (s.run events).ShowsModel
  := by
  induction events generalizing s with
  | nil => exact h
  | cons event events ih => exact ih (h.handle event.1 event.2)

/-- After a run, a session has of each model what was told of it last, or else what it had. -/
theorem model?_run (s : Session) (events : List (Nat × Event)) (id : String) :
  (s.run events).model? id = ((s.along modelsTold events).reverse.lookup id).or (s.model? id)
  := by
  induction events generalizing s with
  | nil => rfl
  | cons event events ih =>
    obtain ⟨now, e⟩ := event
    have hone : (s.modelsTold now e).reverse = s.modelsTold now e := by
      rw [modelsTold]
      cases s.change e with
      | _ => rfl
    have hrun : s.run ((now, e) :: events) = (s.handle now e).1.run events := rfl
    rw [hrun, ih, model?_handle, along, List.reverse_append, List.lookup_append, hone,
      Option.or_assoc]

section Start

variable (snapshot : Snapshot) (agent : Agent) (agents : List Agent) (theme : Theme)
  (viewport : Viewport)

/-- A session starts with its agent and the roster, and without models. -/
theorem start_staffed :
  let opened := start snapshot agent agents theme viewport
  opened.agent = agent ∧ opened.agents = agents ∧ opened.models = [] ∧ opened.model = none
  := by
  intro opened
  let bare : Session :=
    { theme := theme, task := snapshot.task, agent := agent, agents := agents,
      viewport := viewport }
  obtain ⟨hagent, hagents, hmodels, hmodel⟩ := bare.apply_staffedAlike snapshot
  exact ⟨hagent, hagents, hmodels, hmodel⟩

/-- A session starts without any model. -/
theorem model?_start (id : String) :
  (start snapshot agent agents theme viewport).model? id = none
  := by
  obtain ⟨-, -, hmodels, -⟩ := start_staffed snapshot agent agents theme viewport
  rw [model?, hmodels, List.lookup_nil]

/-- A session that starts shows the model of its agent if it has it: it has none. -/
theorem showsModel_start :
  (start snapshot agent agents theme viewport).ShowsModel
  := by
  obtain ⟨-, -, -, hmodel⟩ := start_staffed snapshot agent agents theme viewport
  rw [ShowsModel, model?_start]
  exact hmodel

/-- In every reachable state the shown model is the one that the session has of the active
agent's model, and of each model it has what was told of it last, if it was told at all. -/
theorem model_eq_told_last (events : List (Nat × Event)) :
  let opened := start snapshot agent agents theme viewport
  let s := opened.run events
  s.model = s.model? s.agent.modelId
    ∧ ∀ id, s.model? id = (opened.along modelsTold events).reverse.lookup id
  := by
  intro opened s
  have hopened : opened.ShowsModel := showsModel_start snapshot agent agents theme viewport
  use hopened.run events
  intro id
  rw [model?_run, model?_start, Option.or_none]

end Start

end TaskConsole.Session
