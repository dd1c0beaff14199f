import BigX.Pipeline.Execution

set_option autoImplicit false

/- The agents of the orchestrator service. A plan is whatever JSON the planner's check let
pass; an exception is given by its text. -/
namespace BigX.Orchestrator
open BigX.Pipeline (SimulationResult ExecutionStatus ExecutionResult Critique TaskStatus occursIn)

/-- What `json.loads` returns. A float is given by its literal. The keys of a `dict` are
distinct. -/
inductive Value
  | null
  | bool (value : Bool)
  | int (value : Int)
  | float (literal : String)
  | str (text : String)
  | list (items : List Value)
  | dict (fields : List (String × Value))

def Value.typeName : Value → String
  | .null => "NoneType"
  | .bool _ => "bool"
  | .int _ => "int"
  | .float _ => "float"
  | .str _ => "str"
  | .list _ => "list"
  | .dict _ => "dict"

/-- What `for item in value` goes through. -/
def Value.iterate : Value → Except String (List Value)
  | .list items => .ok items
  | .dict fields => .ok (fields.map fun field => .str field.1)
  | .str text => .ok (text.toList.map fun c => .str (String.singleton c))
  | value => .error ("'" ++ value.typeName ++ "' object is not iterable")

/-- `len(value)` -/
def Value.len : Value → Except String Nat
  | .list items => .ok items.length
  | .dict fields => .ok fields.length
  | .str text => .ok text.length
  | value => .error ("object of type '" ++ value.typeName ++ "' has no len()")

/-- `value[index]` for an index that is not negative. -/
def Value.item (index : Nat) : Value → Except String Value
  | .list items =>
      match items[index]? with
      | some item => .ok item
      | none => .error "list index out of range"
  | .dict _ => .error (toString index)
  | .str text =>
      match text.toList[index]? with
      | some c => .ok (.str (String.singleton c))
      | none => .error "string index out of range"
  | value => .error ("'" ++ value.typeName ++ "' object is not subscriptable")

def lookup (key : String) (fields : List (String × Value)) : Option Value :=
  (fields.find? fun field => field.1 = key).map Prod.snd

/-- `value[key]` for a string `key`. -/
def Value.field (key : String) : Value → Except String Value
  | .dict fields =>
      match lookup key fields with
      | some value => .ok value
      | none => .error ("'" ++ key ++ "'")
  | .list _ => .error "list indices must be integers or slices, not str"
  | .str _ => .error "string indices must be integers, not 'str'"
  | value => .error ("'" ++ value.typeName ++ "' object is not subscriptable")

/-- `value.get(key, default_)` -/
def Value.get (key : String) (default_ : Value) : Value → Except String Value
  | .dict fields => .ok ((lookup key fields).getD default_)
  | value => .error ("'" ++ value.typeName ++ "' object has no attribute 'get'")

/-- `value == text` for a string `text`. -/
def Value.is (text : String) : Value → Bool
  | .str other => other = text
  | _ => false

/-- `AVAILABLE_TOOLS` -/
def availableTools : List String :=
  ["swap_tool", "bridge_tool", "defi_tool", "nft_tool", "wallet_tool", "price_feed_tool"]

structure Context where
  portfolio : Value
  recentHistory : Value
  relevantDocs : Value

structure AgentState where
  taskId : String
  agentId : String
  userRequest : String
  context : Option Context
  subtasks : Value
  currentSubtaskIndex : Nat
  simulation : Option SimulationResult
  execution : Option ExecutionResult
  critique : Option Critique
  retryCount : Int
  maxRetries : Int
  status : TaskStatus

/-- `build_initial_state` -/
def buildInitialState (taskId agentId userRequest : String) (maxRetries : Int) : AgentState :=
  { taskId := taskId
    agentId := agentId
    userRequest := userRequest
    context := none
    subtasks := .list []
    currentSubtaskIndex := 0
    simulation := none
    execution := none
    critique := none
    retryCount := 0
    maxRetries := maxRetries
    status := .planning }

/-- `state["subtasks"][state["current_subtask_index"]]` -/
def AgentState.currentSubtask (state : AgentState) : Except String Value :=
  state.subtasks.item state.currentSubtaskIndex

/-- A stored simulation that lets the executor go ahead. -/
def AgentState.cleared (state : AgentState) : Bool :=
  match state.simulation with
  | some simulation => simulation.passedPolicyCheck
  | none => false

/-- The calls of a visit that matter outside. -/
inductive Event
  | checkedAction (target : String) (value : Nat) (data : List UInt8)
      (answer : Except String (Bool × String))
  | dispatched (tool action params : Value) (answer : Except String String)
  | awaitedReceipt (txHash : String) (answer : Except String (Bool × Nat))
  | recordedSpend (value : Value) (answer : Except String Unit)

/-- How the `run` of a node ended, with the state as the node left it. -/
structure Outcome where
  state : AgentState
  events : List Event
  raised : Option String

/-- `json.loads` answers `none` for what is no JSON, and `repr` is the `str` of a value. -/
structure PlannerVisit where
  complete : Except String String
  loads : String → Option Value
  repr : Value → String

/-- The loop of `_parse_subtasks`. -/
def checkTools (repr : Value → String) : List Value → Except String Unit
  | [] => .ok ()
  | subtask :: rest => do
      let tool ← subtask.get "tool" .null
      if availableTools.any tool.is then checkTools repr rest
      else .error ("Planner referenced unknown tool: " ++ repr tool)

/-- `_parse_subtasks` -/
def parseSubtasks (visit : PlannerVisit) (rawResponse : String) : Except String Value :=
  match visit.loads rawResponse with
  | none => .error "Planner failed to produce a valid subtask list"
  | some parsed => do
      let items ← parsed.iterate
      checkTools visit.repr items
      pure parsed

/-- `PlannerAgent.run` -/
def plannerRun (visit : PlannerVisit) (state : AgentState) : Outcome :=
  match visit.complete with
  | .error text => ⟨state, [], some text⟩
  | .ok response =>
      match parseSubtasks visit response with
      | .error text => ⟨state, [], some text⟩
      | .ok subtasks =>
          ⟨{ state with subtasks := subtasks, currentSubtaskIndex := 0, status := .simulating },
            [], none⟩

structure MemoryVisit where
  portfolio : Except String Value
  recentHistory : Except String Value
  relevantDocs : Except String Value

/-- The lookups of `MemoryKnowledgeAgent.run`, up to the first that fails. -/
def gatherContext (visit : MemoryVisit) : Except String Context := do
  let portfolio ← visit.portfolio
  let history ← visit.recentHistory
  let docs ← visit.relevantDocs
  pure ⟨portfolio, history, docs⟩

/-- `MemoryKnowledgeAgent.run` -/
def memoryRun (visit : MemoryVisit) (state : AgentState) : Outcome :=
  match gatherContext visit with
  | .ok context => ⟨{ state with context := some context }, [], none⟩
  | .error text => ⟨state, [], some text⟩

structure ToolCall where
  target : String
  value : Nat
  calldata : List UInt8

structure SimulatorVisit where
  localMode : Bool
  estimateGas : ToolCall → Except String Nat
  checkAction : ToolCall → Except String (Bool × String)

/-- `_resolve_call`: the zero address in local mode, and nothing else yet. -/
def resolveCall (localMode : Bool) : Except String ToolCall :=
  if localMode then .ok ⟨"0x" ++ String.ofList (List.replicate 40 '0'), 0, []⟩
  else .error "Wire this up to services/tool_router"

/-- `_estimate_slippage` -/
def estimateSlippage (tool : Value) : Nat :=
  if tool.is "swap_tool" then 50 else 0

/-- `_score_risk`, which looks at the action of a `defi_tool` only. -/
def scoreRisk (subtask tool : Value) (slippageBps : Nat) : Except String Nat := do
  let leverage ←
    if tool.is "defi_tool" then do
      let action ← subtask.field "action"
      pure (action.is "leverage")
    else pure false
  pure (min ((if tool.is "bridge_tool" then 40 else 0) + (if leverage then 50 else 0) +
    min (slippageBps / 10) 30) 100)

/-- What `SimulatorAgent.run` computes before it asks the policy engine. -/
def prepareCheck (visit : SimulatorVisit) (state : AgentState) :
    Except String (Nat × Nat × Nat × ToolCall) := do
  let subtask ← state.currentSubtask
  let tool ← subtask.field "tool"
  let gasCall ← resolveCall visit.localMode
  let estimatedGas ← visit.estimateGas gasCall
  let slippageBps := estimateSlippage tool
  let riskScore ← scoreRisk subtask tool slippageBps
  let call ← resolveCall visit.localMode
  pure (estimatedGas, slippageBps, riskScore, call)

/-- `SimulatorAgent.run`. A check that fails is an answer, not an exception. -/
def simulatorRun (visit : SimulatorVisit) (state : AgentState) : Outcome :=
  match prepareCheck visit state with
  | .error text => ⟨state, [], some text⟩
  | .ok (estimatedGas, slippageBps, riskScore, call) =>
      let answer := visit.checkAction call
      let events := [.checkedAction call.target call.value call.calldata answer]
      match answer with
      | .error text => ⟨state, events, some text⟩
      | .ok (passed, reason) =>
          ⟨{ state with
             simulation := some ⟨estimatedGas, slippageBps, riskScore, passed, some reason⟩
             status := if passed then .executing else .failed }, events, none⟩

structure ExecutorVisit where
  dispatch : Except String String
  waitForReceipt : String → Except String (Bool × Nat)
  recordSpend : Except String Unit
  logTransaction : Except String Unit

/-- The `try` of the executor from the receipt on. -/
def settle (visit : ExecutorVisit) (txHash : String) (params : Value) :
    List Event × Except String ExecutionResult :=
  let receipt := visit.waitForReceipt txHash
  let awaited := [Event.awaitedReceipt txHash receipt]
  match receipt with
  | .error text => (awaited, .error text)
  | .ok (false, gasUsed) =>
      (awaited, visit.logTransaction.map fun _ =>
        ⟨some txHash, .failed, some gasUsed, some "Transaction reverted"⟩)
  | .ok (true, gasUsed) =>
      match params.get "amount_usd" (.int 0) with
      | .error text => (awaited, .error text)
      | .ok amount =>
          (awaited ++ [.recordedSpend amount visit.recordSpend], do
            visit.recordSpend
            visit.logTransaction
            pure ⟨some txHash, .confirmed, some gasUsed, none⟩)

/-- The arguments of a dispatch. -/
def dispatchArguments (subtask : Value) : Except String (Value × Value × Value) := do
  let tool ← subtask.field "tool"
  let action ← subtask.field "action"
  let params ← subtask.field "params"
  pure (tool, action, params)

/-- The `try` of the executor. -/
def submit (visit : ExecutorVisit) (subtask : Value) :
    List Event × Except String ExecutionResult :=
  match dispatchArguments subtask with
  | .error text => ([], .error text)
  | .ok (tool, action, params) =>
      let dispatched := [Event.dispatched tool action params visit.dispatch]
      match visit.dispatch with
      | .error text => (dispatched, .error text)
      | .ok txHash =>
          let settled := settle visit txHash params
          (dispatched ++ settled.1, settled.2)

/-- `ExecutorAgent.run` -/
def executorRun (visit : ExecutorVisit) (state : AgentState) : Outcome :=
  match state.currentSubtask with
  | .error text => ⟨state, [], some text⟩
  | .ok subtask =>
      if state.cleared = false then
        ⟨{ state with
           execution := some ⟨none, .failed, none, some "Blocked by policy check before execution"⟩
           status := .reviewing }, [], none⟩
      else
        match subtask.field "tool" with
        | .error text => ⟨state, [], some text⟩
        | .ok _ =>
            let submitted := submit visit subtask
            let result := match submitted.2 with
              | .ok result => result
              | .error text => ⟨none, .failed, none, some text⟩
            ⟨{ state with execution := some result, status := .reviewing }, submitted.1, none⟩

structure CriticVisit where
  logStep : Except String Unit

/-- `transient_errors` -/
def transientErrors : List String := ["Transaction reverted", "timeout", "nonce too low"]

/-- `_evaluate` -/
def evaluate (execution : ExecutionResult) : Critique :=
  match execution.status with
  | .confirmed => ⟨true, false, "Execution confirmed on-chain as expected."⟩
  | .failed =>
      let error := execution.error.getD ""
      ⟨false, transientErrors.any (fun text => occursIn text error),
        if error = "" then "Unknown execution failure" else error⟩

/-- `CriticAgent.run` -/
def criticRun (visit : CriticVisit) (state : AgentState) : Outcome :=
  match state.execution with
  | none => ⟨state, [], some "'NoneType' object is not subscriptable"⟩
  | some execution =>
      let critique := evaluate execution
      let reviewed : AgentState := { state with critique := some critique }
      match visit.logStep, state.subtasks.len with
      | .error text, _ => ⟨reviewed, [], some text⟩
      | .ok (), .error text => ⟨reviewed, [], some text⟩
      | .ok (), .ok length =>
          if execution.status = .confirmed ∧ state.currentSubtaskIndex + 1 < length then
            ⟨{ reviewed with
               currentSubtaskIndex := state.currentSubtaskIndex + 1
               status := .simulating }, [], none⟩
          else if execution.status = .confirmed then ⟨{ reviewed with status := .done }, [], none⟩
          else if critique.shouldRetry = true ∧ state.retryCount < state.maxRetries then
            ⟨{ reviewed with retryCount := state.retryCount + 1, status := .retrying }, [], none⟩
          else ⟨{ reviewed with status := .failed }, [], none⟩

end BigX.Orchestrator
