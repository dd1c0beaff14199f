import BigX.Pipeline.Resilience

set_option autoImplicit false

/- The task state that the nodes of the agent graph pass on, what a planner may put into it, and
the executor and the critic. -/
namespace BigX.Pipeline

/-- The values of a subtask's parameters. -/
inductive Json
  | null
  | bool (value : Bool)
  | number (value : Rat)
  | string (value : String)
  | array (items : List Json)
  | object (fields : List (String × Json))

structure SubTask where
  tool : String
  action : String
  params : List (String × Json)

structure SimulationResult where
  estimatedGas : Nat
  estimatedSlippageBps : Nat
  riskScore : Nat
  passedPolicyCheck : Bool
  policyReason : Option String

inductive ExecutionStatus
  | confirmed
  | failed
  deriving DecidableEq

structure ExecutionResult where
  txHash : Option String
  status : ExecutionStatus
  actualGasUsed : Option Nat
  error : Option String

structure Critique where
  outcomeMatchesIntent : Bool
  shouldRetry : Bool
  feedback : String

inductive TaskStatus
  | planning
  | simulating
  | executing
  | reviewing
  | retrying
  | done
  | failed
  deriving DecidableEq

/-- What the memory node gathers for the planner's next prompt. -/
structure Context where
  portfolio : Json
  recentHistory : Json
  relevantDocs : Json

structure AgentState where
  taskId : String
  agentId : String
  userRequest : String
  context : Option Context
  subtasks : List SubTask
  currentSubtaskIndex : Nat
  simulation : Option SimulationResult
  execution : Option ExecutionResult
  critique : Option Critique
  retryCount : Int
  maxRetries : Int
  status : TaskStatus

/-- `build_initial_state` -/
def buildInitialState (taskId agentId userRequest : String) (maxRetries : Int) : AgentState :=
  { taskId := taskId
    agentId := agentId
    userRequest := userRequest
    context := none
    subtasks := []
    currentSubtaskIndex := 0
    simulation := none
    execution := none
    critique := none
    retryCount := 0
    maxRetries := maxRetries
    status := .planning }

/-- `state["subtasks"][state["current_subtask_index"]]` -/
def AgentState.currentSubtask (state : AgentState) : Except Exc SubTask :=
  match state.subtasks[state.currentSubtaskIndex]? with
  | some subtask => .ok subtask
  | none => .error (.other "list index out of range")

/-- A stored simulation that lets the executor go ahead. -/
def AgentState.cleared (state : AgentState) : Bool :=
  match state.simulation with
  | some simulation => simulation.passedPolicyCheck
  | none => false

/-- What happens outside during a visit of a node, attempt by attempt. -/
inductive Event
  | checkedAction (index : Nat) (subtask : SubTask) (answer : Except Exc (Bool × Option String))
  | dispatched (index : Nat) (subtask : SubTask) (answer : Except Exc String)
  | awaitedReceipt (txHash : String) (answer : Except Exc (Bool × Nat))
  | recordedSpend (value : Json) (answer : Except Exc Unit)

/-- How the `run` of a node ended. Python mutates the state in place, so `state` is what
an exception leaves as well. -/
structure Outcome where
  state : AgentState
  events : List Event
  raised : Option Exc

structure ExecutorVisit where
  dispatch : Attempts String
  waitForReceipt : String → Attempts (Bool × Nat)
  recordSpend : Attempts Unit

/-- `subtask["params"].get("amount_usd", 0)` -/
def SubTask.amountUsd (subtask : SubTask) : Json :=
  match subtask.params.find? (fun field => field.1 = "amount_usd") with
  | some field => field.2
  | none => .number 0

/-- What both `except` branches record. -/
def ExecutionResult.raised (exc : Exc) : ExecutionResult :=
  ⟨none, .failed, none, some exc.text⟩

/-- The `try` of the executor: dispatch, wait for the receipt, record the spend. -/
def submit (visit : ExecutorVisit) (index : Nat) (subtask : SubTask) :
    List Event × Except Exc ExecutionResult :=
  let dispatches := withRetry 2 visit.dispatch
  let dispatched := dispatches.made.map (.dispatched index subtask)
  match dispatches.result with
  | .error exc => (dispatched, .error exc)
  | .ok txHash =>
      let receipts := withRetry 3 (visit.waitForReceipt txHash)
      let awaited := dispatched ++ receipts.made.map (.awaitedReceipt txHash)
      match receipts.result with
      | .error exc => (awaited, .error exc)
      | .ok (false, gasUsed) =>
          (awaited, .ok ⟨some txHash, .failed, some gasUsed, some "Transaction reverted"⟩)
      | .ok (true, gasUsed) =>
          let spends := withRetry 2 visit.recordSpend
          let recorded := awaited ++ spends.made.map (.recordedSpend subtask.amountUsd)
          match spends.result with
          | .error exc => (recorded, .error exc)
          | .ok () => (recorded, .ok ⟨some txHash, .confirmed, some gasUsed, none⟩)

/-- `ExecutorAgent.run`. Its guard looks at whatever simulation is stored. -/
def executorRun (visit : ExecutorVisit) (state : AgentState) : Outcome :=
  match state.currentSubtask with
  | .error exc => ⟨state, [], some exc⟩
  | .ok subtask =>
      if state.cleared = false then
        ⟨{ state with
           execution := some ⟨none, .failed, none, some "Blocked by policy check before execution"⟩
           status := .reviewing }, [], none⟩
      else
        let submitted := submit visit state.currentSubtaskIndex subtask
        let result := match submitted.2 with
          | .ok result => result
          | .error exc => .raised exc
        ⟨{ state with execution := some result, status := .reviewing }, submitted.1, none⟩

theorem submit_dispatched {visit : ExecutorVisit} {current index : Nat} {task subtask : SubTask}
    {answer : Except Exc String}
    (dispatched : .dispatched index subtask answer ∈ (submit visit current task).1) :
    index = current ∧ subtask = task := by
  have made : .dispatched index subtask answer ∈
      (withRetry 2 visit.dispatch).made.map (Event.dispatched current task) := by
    simp only [submit] at dispatched
    repeat' split at dispatched
    all_goals simpa using dispatched
  obtain ⟨outcome, _, same⟩ := List.mem_map.mp made
  cases same
  exact ⟨rfl, rfl⟩

/-- The executor dispatches only the current subtask, and only on a simulation that passed. -/
theorem executorRun_dispatched {visit : ExecutorVisit} {state : AgentState} {index : Nat}
    {subtask : SubTask} {answer : Except Exc String}
    (dispatched : .dispatched index subtask answer ∈ (executorRun visit state).events) :
    index = state.currentSubtaskIndex ∧ state.currentSubtask = .ok subtask ∧
      state.cleared = true := by
  unfold executorRun at dispatched
  split at dispatched
  · cases dispatched
  · rename_i task current
    split at dispatched
    · cases dispatched
    · rename_i cleared
      obtain ⟨sameIndex, sameTask⟩ := submit_dispatched dispatched
      subst sameTask
      exact ⟨sameIndex, current, by simpa using cleared⟩

/-- `pattern in text` -/
def occursIn (pattern text : String) : Bool :=
  text.toList.tails.any fun rest => pattern.toList.isPrefixOf rest

/-- `TRANSIENT_EXECUTION_ERRORS` -/
def transientExecutionErrors : List String :=
  ["Transaction reverted", "timeout", "nonce too low", "replacement transaction underpriced"]

/-- `_evaluate` -/
def evaluate (execution : ExecutionResult) : Critique :=
  match execution.status with
  | .confirmed => ⟨true, false, "Execution confirmed on-chain as expected."⟩
  | .failed =>
      let error := match execution.error with
        | some text => if text = "" then "Unknown execution failure" else text
        | none => "Unknown execution failure"
      ⟨false, transientExecutionErrors.any (fun pattern => occursIn pattern error), error⟩

/-- `CriticAgent.run`. Without an execution there is nothing to evaluate. -/
def criticRun (state : AgentState) : Outcome :=
  match state.execution with
  | none => ⟨state, [], some (.other "'NoneType' object is not subscriptable")⟩
  | some execution =>
      let critique := evaluate execution
      let reviewed : AgentState := { state with critique := some critique }
      let moreSubtasksRemain := state.currentSubtaskIndex + 1 < state.subtasks.length
      if execution.status = .confirmed ∧ moreSubtasksRemain then
        ⟨{ reviewed with
           currentSubtaskIndex := state.currentSubtaskIndex + 1
           status := .simulating }, [], none⟩
      else if execution.status = .confirmed then ⟨{ reviewed with status := .done }, [], none⟩
      else if critique.shouldRetry = true ∧ state.retryCount < state.maxRetries then
        ⟨{ reviewed with retryCount := state.retryCount + 1, status := .retrying }, [], none⟩
      else ⟨{ reviewed with status := .failed }, [], none⟩

theorem criticRun_events (state : AgentState) : (criticRun state).events = [] := by
  simp only [criticRun]
  repeat' split
  all_goals rfl

end BigX.Pipeline
