import BigX.Pipeline.FailedReplan
import BigX.Pipeline.Frames

set_option autoImplicit false

/- What the orchestrator service records of one workflow. The success record is saved before
the last lines of the `try`, which look into an execution that need not be there. -/
namespace BigX.Pipeline.Service

/-- How `workflow.ainvoke` ends; a cancellation is no `Exception`. The final state may hold a
`wallet` next to the fields of the graph. -/
inductive Invoked
  | returned (result : AgentState) (wallet : Option String)
  | raised (exc : Exc)
  | cancelled

inductive StepStatus
  | succeeded
  | failed
  deriving DecidableEq

/-- What `save_state` adds to the history. -/
structure ExecutionStep where
  taskId : String
  agentId : String
  role : String
  status : StepStatus
  sequence : Nat
  summaryStatus : TaskStatus
  summarySubtasks : Nat
  deriving DecidableEq

/-- What `AuditRepository.log` adds to it, under a role of its own. -/
structure AuditStep where
  taskId : String
  userId : String
  wallet : String
  action : String
  txHash : String
  gasUsed : Option Nat
  deriving DecidableEq

inductive Raised
  | workflowError (text : String)
  | cancelled
  deriving DecidableEq

/-- One `execute`: its state records and audit entries, both in order, and its end. -/
structure Executed where
  records : List ExecutionStep
  audits : List AuditStep
  result : Except Raised AgentState

/-- `ExecutionRepository.save_state` -/
def saveState (taskId : String) (state : AgentState) (nodeName : String) (status : StepStatus) :
    ExecutionStep :=
  { taskId := taskId
    agentId := state.agentId
    role := nodeName
    status := status
    sequence := state.currentSubtaskIndex
    summaryStatus := state.status
    summarySubtasks := state.subtasks.length }

/-- The `except` of `execute`, after what the `try` has recorded. -/
def executeFailed (initialState : AgentState) (records : List ExecutionStep)
    (audits : List AuditStep) (exc : Exc) : Executed :=
  let failedState : AgentState :=
    { initialState with
      status := .failed
      critique := some ⟨false, false, exc.text⟩ }
  { records := records ++ [saveState initialState.taskId failedState "workflow" .failed]
    audits := audits
    result := .error (.workflowError
      (if exc.isPlanningPipelineError then "Pipeline error: " ++ exc.text
       else "Workflow failure: " ++ exc.text)) }

/-- `OrchestratorService.execute`, with repositories that do not fail. The key `execution` is
always there, so that its value is `None` and not the default before anything is executed. -/
def execute (initialState : AgentState) : Invoked → Executed
  | .cancelled => ⟨[], [], .error .cancelled⟩
  | .raised exc => executeFailed initialState [] [] exc
  | .returned result wallet =>
      let records := [saveState initialState.taskId result "workflow" .succeeded]
      match result.execution with
      | none =>
          executeFailed initialState records []
            (.other "'NoneType' object has no attribute 'get'")
      | some execution =>
          let audits := match execution.txHash with
            | none => []
            | some txHash =>
                if txHash = "" then []
                else [⟨initialState.taskId, result.agentId, wallet.getD "", "workflow_execution",
                  txHash, execution.actualGasUsed⟩]
          ⟨records, audits, .ok result⟩

/-- The status that the end of a call calls for. -/
def Executed.due (executed : Executed) : StepStatus :=
  match executed.result with
  | .ok _ => .succeeded
  | .error _ => .failed

/-- One state record, which says how the call ended. -/
def Executed.OneRecord (executed : Executed) : Prop :=
  executed.records.map ExecutionStep.status = [executed.due]

instance (executed : Executed) : Decidable executed.OneRecord :=
  inferInstanceAs (Decidable (executed.records.map ExecutionStep.status = [executed.due]))

/-- The graph raises an exception, or comes back with an execution. -/
def Invoked.Concludes : Invoked → Prop
  | .returned result _ => result.execution.isSome = true
  | .raised _ => True
  | .cancelled => False

theorem execute_oneRecord (initialState : AgentState) (invoked : Invoked) :
    (execute initialState invoked).OneRecord ↔ invoked.Concludes := by
  cases invoked with
  | cancelled => exact iff_of_false nofun id
  | raised exc => exact iff_of_true rfl trivial
  | returned result wallet =>
    cases found : result.execution with
    | none =>
      simp [Executed.OneRecord, Invoked.Concludes, execute, executeFailed, found]
    | some execution =>
      simp [Executed.OneRecord, Executed.due, Invoked.Concludes, execute, saveState, found]

/-- A visit of the executor that has a subtask. -/
def ExecutesSubtask (entry : Entry) : Prop :=
  entry.input.node = .executor ∧ ∃ subtask, entry.before.state.currentSubtask = .ok subtask

/-- The final state has an execution exactly if the executor once had a subtask. -/
theorem execution_isSome_iff (taskId agentId userRequest : String) (maxRetries : Int)
    (visits : List Visit) :
    (history (begin_ taskId agentId userRequest maxRetries) visits).now.state.execution.isSome =
        true ↔
      ∃ entry ∈ (history (begin_ taskId agentId userRequest maxRetries) visits).past,
        ExecutesSubtask entry := by
  apply Run.run_induction step (begin_ taskId agentId userRequest maxRetries)
    (fun past now => now.state.execution.isSome = true ↔ ∃ entry ∈ past, ExecutesSubtask entry)
  · exact iff_of_false nofun fun ⟨_, member, _⟩ => nomatch member
  · intro past now visit after events held accepted
    obtain ⟨-, same, -, -⟩ := step_ok accepted
    have split_last : (∃ entry ∈ past ++ [⟨now, visit, events, after⟩], ExecutesSubtask entry) ↔
        (∃ entry ∈ past, ExecutesSubtask entry) ∨
          visit.node = .executor ∧ ∃ subtask, now.state.currentSubtask = .ok subtask := by
      simp only [List.mem_append, List.mem_singleton, or_and_right, exists_or, exists_eq_left,
        ExecutesSubtask]
    rw [split_last, ← held, same, wrapNode_execution]
    by_cases executor : visit.node = .executor
    · cases visit with
      | executor visit =>
        rw [Visit.run]
        rcases executorRun_state visit now.state with
          ⟨exc, missing, raised⟩ | ⟨subtask, execution, current, -, written⟩
        · rw [raised, missing]
          simp
        · rw [written, current]
          simp [Visit.node]
      | _ => cases executor
    · rw [run_execution visit now.state executor]
      simp [executor]

/-- A call records its end once, exactly if the graph raises an exception or comes back with an
execution: the latter if its executor once had a subtask. -/
theorem one_record_iff (initialState : AgentState) (invoked : Invoked) :
    ((execute initialState invoked).OneRecord ↔ invoked.Concludes) ∧
      ∀ taskId agentId userRequest maxRetries visits wallet,
        (execute (buildInitialState taskId agentId userRequest maxRetries)
            (.returned (history (begin_ taskId agentId userRequest maxRetries) visits).now.state
              wallet)).OneRecord ↔
          ∃ entry ∈ (history (begin_ taskId agentId userRequest maxRetries) visits).past,
            ExecutesSubtask entry := by
  constructor
  · exact execute_oneRecord initialState invoked
  · intro taskId agentId userRequest maxRetries visits wallet
    rw [execute_oneRecord, ← execution_isSome_iff]
    rfl

/-- The model cannot be reached, so that there is never a subtask. -/
def unplanned : List Visit :=
  [.planner planNothing, .memory remember, .simulator (simulateWith (.ok (true, none))),
    .executor (executeAs "0x01"), .critic]

/-- The graph is at its end, and the call records a success and then a failure. -/
theorem unplanned_recorded_twice :
    let ended := (history (begin_ "task" "7" "swap it" 2) unplanned).now
    let executed := execute (buildInitialState "task" "7" "swap it" 2) (.returned ended.state none)
    ended.next = none ∧ executed.records.map ExecutionStep.status = [.succeeded, .failed] ∧
      ¬ executed.OneRecord := by
  decide +kernel

end BigX.Pipeline.Service
