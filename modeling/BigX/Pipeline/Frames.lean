import BigX.Pipeline.PaidOnce

set_option autoImplicit false

/- What one visit of a node can do to the state, and what it leaves alone. -/
namespace BigX.Pipeline

@[simp] theorem wrapNode_execution (outcome : Outcome) :
    (wrapNode outcome).execution = outcome.state.execution := by
  unfold wrapNode
  split <;> rfl

@[simp] theorem wrapNode_retryCount (outcome : Outcome) :
    (wrapNode outcome).retryCount = outcome.state.retryCount := by
  unfold wrapNode
  split <;> rfl

@[simp] theorem wrapNode_maxRetries (outcome : Outcome) :
    (wrapNode outcome).maxRetries = outcome.state.maxRetries := by
  unfold wrapNode
  split <;> rfl

/-- Only the critic calls a task done. -/
theorem wrapNode_not_done (outcome : Outcome) (open_ : outcome.state.status ≠ .done) :
    (wrapNode outcome).status ≠ .done := by
  unfold wrapNode
  split
  · exact open_
  · intro failed
    cases failed

/-- A plan that passed every check has a subtask. -/
theorem parseAndValidate_nonempty {visit : PlannerVisit} {response : String}
    {subtasks : List SubTask} (parsed : parseAndValidate visit response = .ok subtasks) :
    subtasks ≠ [] := by
  intro empty
  subst empty
  unfold parseAndValidate at parsed
  split at parsed
  · cases parsed
  · rename_i decoded read
    split at parsed
    · rename_i accepted
      cases parsed
      simp [plannerOutputErrors] at accepted
    · cases parsed

/-- Without a plan the planner raises and leaves the state as it was. -/
theorem plannerRun_state (visit : PlannerVisit) (state : AgentState) :
    (¬ visit.Delivers state.agentId ∧ ∃ exc, plannerRun visit state = ⟨state, [], some exc⟩) ∨
    (visit.Delivers state.agentId ∧ ∃ subtasks, subtasks ≠ [] ∧ plannerRun visit state =
      ⟨{ state with subtasks := subtasks, currentSubtaskIndex := 0, status := .simulating },
        [], none⟩) := by
  unfold plannerRun PlannerVisit.Delivers
  cases completed : (withRetry 3 visit.complete).result with
  | error exc =>
    refine Or.inl ⟨?_, exc, rfl⟩
    rintro ⟨response, subtasks, answered, -⟩
    cases answered
  | ok response =>
    cases parsed : parseAndValidate visit response with
    | error exc =>
      refine Or.inl ⟨?_, exc, by simp only [parsed]⟩
      rintro ⟨answer, subtasks, same, read, -⟩
      cases same
      rw [parsed] at read
      cases read
    | ok subtasks =>
      cases checked : checkCapabilities visit state.agentId subtasks with
      | error exc =>
        refine Or.inl ⟨?_, exc, by simp only [parsed, checked]⟩
        rintro ⟨answer, plan, same, read, granted⟩
        cases same
        rw [parsed] at read
        cases read
        rw [checked] at granted
        cases granted
      | ok granted =>
        refine Or.inr ⟨⟨response, subtasks, rfl, parsed, checked⟩, subtasks, ?_, ?_⟩
        · exact parseAndValidate_nonempty parsed
        · simp only [parsed, checked]

theorem memoryRun_state (visit : MemoryVisit) (state : AgentState) :
    ∃ context, (memoryRun visit state).state = { state with context := context } := by
  unfold memoryRun
  split
  · exact ⟨_, rfl⟩
  · split <;> exact ⟨state.context, rfl⟩

theorem simulatorRun_state (visit : SimulatorVisit) (state : AgentState) :
    (simulatorRun visit state).state = state ∨
      ∃ simulation status, status ≠ TaskStatus.done ∧ (simulatorRun visit state).state =
        { state with simulation := some simulation, status := status } := by
  simp only [simulatorRun]
  repeat' split
  · exact Or.inl rfl
  · exact Or.inl rfl
  · exact Or.inl rfl
  · exact Or.inl rfl
  · exact Or.inr ⟨_, .executing, by simp, rfl⟩
  · exact Or.inr ⟨_, .failed, by simp, rfl⟩

/-- The executor raises only before it has a subtask; else it records an execution. -/
theorem executorRun_state (visit : ExecutorVisit) (state : AgentState) :
    (∃ exc, state.currentSubtask = .error exc ∧
      executorRun visit state = ⟨state, [], some exc⟩) ∨
    ∃ subtask execution, state.currentSubtask = .ok subtask ∧
      (executorRun visit state).raised = none ∧
      (executorRun visit state).state =
        { state with execution := some execution, status := .reviewing } := by
  unfold executorRun
  split
  · rename_i exc missing
    exact Or.inl ⟨exc, missing, rfl⟩
  · rename_i subtask current
    refine Or.inr ⟨subtask, ?_⟩
    split
    · exact ⟨_, current, rfl, rfl⟩
    · exact ⟨_, current, rfl, rfl⟩

/-- A subtask is the current one exactly if the index is within the plan. -/
theorem currentSubtask_ok_iff (state : AgentState) :
    (∃ subtask, state.currentSubtask = .ok subtask) ↔
      state.currentSubtaskIndex < state.subtasks.length := by
  unfold AgentState.currentSubtask
  cases found : state.subtasks[state.currentSubtaskIndex]? with
  | none =>
    have beyond := List.getElem?_eq_none_iff.mp found
    refine iff_of_false ?_ (by omega)
    rintro ⟨subtask, current⟩
    cases current
  | some subtask => exact iff_of_true ⟨subtask, rfl⟩ (List.getElem?_eq_some_iff.mp found).1

/-- Between the planner and the critic the plan and the counters stand still. -/
theorem run_keeps (visit : Visit) (state : AgentState) (planner : visit.node ≠ .planner)
    (critic : visit.node ≠ .critic) :
    (visit.run state).state.subtasks = state.subtasks ∧
      (visit.run state).state.currentSubtaskIndex = state.currentSubtaskIndex ∧
      (visit.run state).state.retryCount = state.retryCount ∧
      (visit.run state).state.maxRetries = state.maxRetries := by
  cases visit with
  | planner visit => exact absurd rfl planner
  | critic => exact absurd rfl critic
  | memory visit =>
    obtain ⟨context, written⟩ := memoryRun_state visit state
    rw [Visit.run, written]
    exact ⟨rfl, rfl, rfl, rfl⟩
  | simulator visit =>
    rcases simulatorRun_state visit state with same | ⟨simulation, status, _, written⟩
    · rw [Visit.run, same]
      exact ⟨rfl, rfl, rfl, rfl⟩
    · rw [Visit.run, written]
      exact ⟨rfl, rfl, rfl, rfl⟩
  | executor visit =>
    rcases executorRun_state visit state with ⟨exc, _, raised⟩ | ⟨_, execution, _, _, written⟩
    · rw [Visit.run, raised]
      exact ⟨rfl, rfl, rfl, rfl⟩
    · rw [Visit.run, written]
      exact ⟨rfl, rfl, rfl, rfl⟩

/-- The four ways the critic goes on from an execution, and what it makes of none. -/
inductive Reviewed (state after : AgentState) : Prop
  | unexecuted (missing : state.execution = none)
      (retries : after.retryCount = state.retryCount) (status : after.status = .failed)
  | advanced (execution : ExecutionResult) (stored : state.execution = some execution)
      (confirmed : execution.status = .confirmed)
      (more : state.currentSubtaskIndex + 1 < state.subtasks.length)
      (index : after.currentSubtaskIndex = state.currentSubtaskIndex + 1)
      (retries : after.retryCount = state.retryCount) (status : after.status = .simulating)
  | finished (execution : ExecutionResult) (stored : state.execution = some execution)
      (confirmed : execution.status = .confirmed)
      (last : state.subtasks.length ≤ state.currentSubtaskIndex + 1)
      (retries : after.retryCount = state.retryCount) (status : after.status = .done)
  | retried (execution : ExecutionResult) (stored : state.execution = some execution)
      (retries : state.Retries execution)
      (index : after.currentSubtaskIndex = state.currentSubtaskIndex)
      (count : after.retryCount = state.retryCount + 1) (status : after.status = .retrying)
  | abandoned (execution : ExecutionResult) (stored : state.execution = some execution)
      (unconfirmed : execution.status ≠ .confirmed)
      (retries : after.retryCount = state.retryCount) (status : after.status = .failed)

theorem criticRun_reviewed (state : AgentState) :
    Reviewed state (wrapNode (criticRun state)) := by
  unfold criticRun
  cases stored : state.execution with
  | none => exact .unexecuted stored rfl rfl
  | some execution =>
    dsimp only
    split
    · rename_i onward
      exact .advanced execution stored onward.1 onward.2 rfl rfl rfl
    · rename_i stays
      split
      · rename_i confirmed
        have last : ¬ state.currentSubtaskIndex + 1 < state.subtasks.length :=
          fun more => stays ⟨confirmed, more⟩
        exact .finished execution stored confirmed (by omega) rfl rfl
      · rename_i unconfirmed
        split
        · rename_i retry
          exact .retried execution stored ⟨unconfirmed, retry⟩ rfl rfl rfl
        · exact .abandoned execution stored unconfirmed rfl rfl

/-- What the critic never writes. -/
theorem criticRun_keeps (state : AgentState) :
    (criticRun state).state.subtasks = state.subtasks ∧
      (criticRun state).state.execution = state.execution ∧
      (criticRun state).state.maxRetries = state.maxRetries := by
  simp only [criticRun]
  repeat' split
  all_goals exact ⟨rfl, rfl, rfl⟩

/-- Only the executor records an execution. -/
theorem run_execution (visit : Visit) (state : AgentState)
    (executor : visit.node ≠ .executor) :
    (visit.run state).state.execution = state.execution := by
  cases visit with
  | executor visit => exact absurd rfl executor
  | planner visit =>
    rw [Visit.run]
    rcases plannerRun_state visit state with ⟨_, exc, raised⟩ | ⟨_, subtasks, _, planned⟩
    · rw [raised]
    · rw [planned]
  | memory visit =>
    obtain ⟨context, written⟩ := memoryRun_state visit state
    rw [Visit.run, written]
  | simulator visit =>
    rcases simulatorRun_state visit state with same | ⟨simulation, status, _, written⟩
    · rw [Visit.run, same]
    · rw [Visit.run, written]
  | critic => exact (criticRun_keeps state).2.1

end BigX.Pipeline
